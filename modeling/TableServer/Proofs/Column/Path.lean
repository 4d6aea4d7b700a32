import TableServer.Column.Path

/-! Columns without an arrow. They are read as they stand: what a row holds under their name, and
null where it holds nothing. -/
namespace TableServer

theorem Text.occursIn_iff {part text : List Char} :
    Text.occursIn part text = true ↔ part <:+: text := by
  induction text with
  | nil => simp [Text.occursIn]
  | cons c rest ih => simp [Text.occursIn, ih, List.infix_cons_iff]

def Arrowless (text : List Char) : Prop :=
  ¬['-', '>'] <:+: text

namespace Path

variable {front rest : List Char}

/-- What follows a text without an arrow is read apart from it, unless the two make an arrow where
they meet. -/
theorem read_append (plain : Arrowless front) (apart : rest.head? ≠ some '>') :
    read (front ++ rest) = ⟨front ++ (read rest).base, (read rest).steps⟩ := by
  induction front with
  | nil => rfl
  | cons c front ih =>
      have tail : Arrowless front :=
        fun arrow => plain (arrow.trans (List.suffix_cons c front).isInfix)
      have no_arrow : c = '-' → (front ++ rest).head? ≠ some '>' := by
        rintro rfl
        cases front with
        | nil => exact apart
        | cons d front =>
            intro h
            obtain rfl : d = '>' := by simpa using h
            exact plain ⟨[], front, rfl⟩
      rw [List.cons_append, read.eq_3, ih tail]
      · rfl
      · intro behind hc he
        exact no_arrow hc (by rw [he]; rfl)
      · intro behind hc he
        exact no_arrow hc (by rw [he]; rfl)

theorem read_of_no_arrow {text : List Char} (h : Text.occursIn ['-', '>'] text = false) :
    read text = ⟨text, []⟩ := by
  have plain : Arrowless text := fun arrow => by
    rw [Text.occursIn_iff.mpr arrow] at h
    cases h
  have apart : ([] : List Char).head? ≠ some '>' := nofun
  have told := read_append plain apart
  rw [List.append_nil] at told
  rw [told, read, List.append_nil]

end Path

theorem resolveColumn_of_no_arrow {column : String} (h : isPath column = false)
    (row : Members) :
    resolveColumn row column = .ok ((Entries.find? ↑column row).getD .null) := by
  rw [resolveColumn, Path.read_of_no_arrow h, Path.resolve]
  rfl

end TableServer
