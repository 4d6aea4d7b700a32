import TableServer.Proofs.Entries
import TableServer.Proofs.Faults
import TableServer.Request.Basic

/-! Values that can be sent. Printing leaves the texts of a value as they are but for escapes, so a
value is sent as JSON unless a surrogate stands in one of its texts. -/
namespace TableServer

namespace Value

variable {members : Members}

theorem allWellFormed_iff {items : List Value} :
    allWellFormed items = true ↔ ∀ v ∈ items, v.wellFormed = true := by
  induction items with
  | nil => simp [allWellFormed]
  | cons v rest ih => simp [allWellFormed, ih]

theorem allWellFormed_of_subset {items kept : List Value} (whole : allWellFormed items = true)
    (inside : kept ⊆ items) : allWellFormed kept = true :=
  allWellFormed_iff.mpr fun v hv => allWellFormed_iff.mp whole v (inside hv)

theorem membersWellFormed_iff :
    membersWellFormed members = true ↔
      ∀ e ∈ members, e.1.wellFormed = true ∧ e.2.wellFormed = true := by
  induction members with
  | nil => simp [membersWellFormed]
  | cons e rest ih => simp [membersWellFormed, ih]

section Members

variable (whole : membersWellFormed members = true) {name : Codes} {v : Value}

include whole

theorem wellFormed_find? : ((Entries.find? name members).getD .null).wellFormed = true := by
  cases found : Entries.find? name members with
  | none => rfl
  | some v => exact (membersWellFormed_iff.mp whole _ (Entries.mem_of_find? found)).2

theorem membersWellFormed_put (named : name.wellFormed = true) (told : v.wellFormed = true) :
    membersWellFormed (Entries.put name v members) = true := by
  refine membersWellFormed_iff.mpr fun e he => ?_
  rcases Entries.mem_put he with rfl | he
  · exact ⟨named, told⟩
  · exact membersWellFormed_iff.mp whole e he

theorem membersWellFormed_erase (name : Codes) :
    membersWellFormed (Entries.erase name members) = true :=
  membersWellFormed_iff.mpr fun e he =>
    membersWellFormed_iff.mp whole e ((Entries.erase_sublist name members).subset he)

theorem membersWellFormed_merge {patch : Members} (merged : membersWellFormed patch = true) :
    membersWellFormed (Entries.merge members patch) = true :=
  membersWellFormed_iff.mpr fun e he =>
    (Entries.mem_merge he).elim (membersWellFormed_iff.mp whole e) (membersWellFormed_iff.mp merged e)

end Members

/-! ## Printing -/

theorem wellFormed_quote {text : Codes} (whole : text.wellFormed = true) :
    (quote text).wellFormed = true := by
  have escaped : Codes.wellFormed (text.flatMap escapeCode) = true := by
    refine List.all_flatMap.trans (List.all_eq_true.mpr fun c hc => ?_)
    cases c with
    | char c => exact Codes.wellFormed_ofChars _
    | surrogate place => cases List.all_eq_true.mp whole _ hc
  simpa [quote, Codes.wellFormed, CodePoint.isChar, CodePoint.char?] using escaped

theorem wellFormed_scalarText {v : Value} (whole : v.wellFormed = true) :
    v.scalarText.wellFormed = true := by
  cases v with
  | bool b => cases b <;> exact Codes.wellFormed_ofString _
  | string s => exact wellFormed_quote whole
  | _ => exact Codes.wellFormed_ofString _

mutual

theorem wellFormed_print (sep : Separators) :
    ∀ v : Value, v.wellFormed = true → (print sep v).wellFormed = true
  | .array items, whole => by
      simp [print, wellFormed_printItems sep items whole]
  | .object members, whole => by
      simp [print, wellFormed_printMembers sep members whole]
  | .null, whole => wellFormed_scalarText whole
  | .bool _, whole => wellFormed_scalarText whole
  | .number _, whole => wellFormed_scalarText whole
  | .string _, whole => wellFormed_scalarText whole
termination_by structural v => v

theorem wellFormed_printItems (sep : Separators) :
    ∀ items : List Value, allWellFormed items = true → (printItems sep items).wellFormed = true
  | [], _ => rfl
  | v :: rest, whole => by
      simp only [allWellFormed, Bool.and_eq_true] at whole
      have last := wellFormed_printItems sep rest whole.2
      have head := wellFormed_print sep v whole.1
      cases he : rest.isEmpty <;> simp [printItems, head, last, he]
termination_by structural items => items

theorem wellFormed_printMembers (sep : Separators) :
    ∀ members : Members, membersWellFormed members = true →
      (printMembers sep members).wellFormed = true
  | [], _ => rfl
  | (k, v) :: rest, whole => by
      simp only [membersWellFormed, Bool.and_eq_true] at whole
      have last := wellFormed_printMembers sep rest whole.2
      have head := wellFormed_print sep v whole.1.2
      cases he : rest.isEmpty <;>
        simp [printMembers, wellFormed_quote whole.1.1, head, last, he]
termination_by structural members => members

end

theorem wellFormed_text {v : Value} (whole : v.wellFormed = true) : v.text.wellFormed = true := by
  cases v with
  | bool b => cases b <;> exact Codes.wellFormed_ofString _
  | string s => exact whole
  | array items => exact wellFormed_print _ _ whole
  | object members => exact wellFormed_print _ _ whole
  | _ => exact Codes.wellFormed_ofString _

end Value

theorem Text.encode_of_wellFormed {text : Codes} (whole : text.wellFormed = true) :
    encode text = .ok (octetsOf text) := by
  have nothing : text.dropWhile CodePoint.isChar = [] :=
    List.dropWhile_eq_nil_iff.mpr (List.all_eq_true.mp whole)
  rw [encode, checkCarried, nothing]
  rfl

namespace Response

theorem jsonContent_of_wellFormed {v : Value} (whole : v.wellFormed = true) :
    jsonContent v = .ok (Text.octetsOf v.spaced) := by
  have printed : v.spaced.wellFormed = true := Value.wellFormed_print _ v whole
  rw [jsonContent, Text.encode_of_wellFormed printed]
  rfl

theorem jsonContent_yields (v : Value) :
    FailsOnly (fun f => (∃ cause, f = .encoding cause) ∧ v.wellFormed = false) (jsonContent v) := by
  cases whole : v.wellFormed with
  | true =>
      rw [jsonContent_of_wellFormed whole]
      trivial
  | false =>
      unfold jsonContent
      cases Text.encode v.spaced with
      | ok octets => trivial
      | error cause => exact ⟨⟨cause, rfl⟩, rfl⟩

end Response

end TableServer
