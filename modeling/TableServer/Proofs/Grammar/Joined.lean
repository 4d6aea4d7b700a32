import TableServer.Proofs.Grammar.Closed

/-! Texts joined by a separator. Splitting undoes joining: the parts of a text are the one list of
uncut texts that the separator joins to it. A closed text is uncut where no separator in it stands
behind a closed text. -/
namespace TableServer.Grammar

namespace Scan

/-- A backslash protects within quotes only. -/
def ProtectsQuoted (s : Scan) : Prop :=
  s.escaped = true → s.quoted = true

theorem protectsQuoted_next {s : Scan} (h : s.ProtectsQuoted) (c : Char) :
    (s.next c).ProtectsQuoted := by
  unfold ProtectsQuoted next
  split
  · nofun
  · rename_i plain
    split
    · rename_i backslash
      exact fun _ => backslash.2
    · split
      · exact fun escaped => absurd escaped plain
      · split
        · exact h
        · split
          · exact fun escaped => absurd escaped plain
          · split <;> exact fun escaped => absurd escaped plain

theorem eq_start_of_settled {s : Scan} (h : s.ProtectsQuoted) (settled : s.settled = true) :
    s = start := by
  obtain ⟨due, quoted, escaped⟩ := s
  simp only [Scan.settled, Bool.and_eq_true, Bool.not_eq_true', List.isEmpty_iff] at settled
  obtain ⟨rfl, rfl⟩ := settled
  cases escaped with
  | false => rfl
  | true => cases h rfl

end Scan

variable {separator : Char} {text front back : List Char} {parts : List (List Char)}

theorem split?_cases {s : Scan} (h : s.ProtectsQuoted)
    (found : split? separator s text = some parts) :
    ∃ first others, parts = first :: others ∧ Moves separator s first .start ∧
      (others = [] ∧ text = first ∨ ∃ rest, text = first ++ separator :: rest ∧
        split? separator .start rest = some others) := by
  induction text generalizing s parts with
  | nil =>
      unfold split? at found
      split at found
      · rename_i settled
        cases found
        exact ⟨[], [], rfl, Scan.eq_start_of_settled h settled ▸ .nil, .inl ⟨rfl, rfl⟩⟩
      · cases found
  | cons c rest ih =>
      unfold split? at found
      split at found
      · rename_i cut
        obtain ⟨others, behind, rfl⟩ := Option.map_eq_some_iff.mp found
        simp only [Scan.cuts, Bool.and_eq_true, decide_eq_true_eq] at cut
        obtain ⟨⟨⟨⟨settled, -⟩, rfl⟩, -⟩, -⟩ := cut
        obtain rfl := Scan.eq_start_of_settled h settled
        exact ⟨[], others, rfl, .nil, .inr ⟨rest, rfl, behind⟩⟩
      · rename_i uncut
        obtain ⟨inner, behind, rfl⟩ := Option.map_eq_some_iff.mp found
        obtain ⟨first, others, rfl, moves, tail⟩ := ih (Scan.protectsQuoted_next h c) behind
        refine ⟨c :: first, others, rfl, .cons (eq_false_of_ne_true uncut) moves, ?_⟩
        rcases tail with ⟨rfl, rfl⟩ | ⟨rest, rfl, told⟩
        · exact .inl ⟨rfl, rfl⟩
        · exact .inr ⟨rest, rfl, told⟩

theorem split?_start_cases (found : split? separator .start text = some parts) :
    ∃ first others, parts = first :: others ∧ Moves separator .start first .start ∧
      (others = [] ∧ text = first ∨ ∃ rest, text = first ++ separator :: rest ∧
        split? separator .start rest = some others) :=
  split?_cases nofun found

theorem split?_eq_singleton_iff :
    split? separator .start text = some [text] ↔ Moves separator .start text .start := by
  refine ⟨fun found => ?_, Moves.split?_self⟩
  obtain ⟨first, others, same, moves, -⟩ := split?_start_cases found
  cases same
  exact moves

/-- A separator behind an accepted text cuts, and the parts on both sides are kept. -/
theorem split?_append (cut : Scan.start.cuts separator separator = true)
    (found : split? separator .start front = some parts) (back : List Char) :
    split? separator .start (front ++ separator :: back) =
      (split? separator .start back).map (parts ++ ·) := by
  induction parts generalizing front with
  | nil =>
      obtain ⟨first, others, same, -⟩ := split?_start_cases found
      cases same
  | cons part others ih =>
      obtain ⟨first, others', same, moves, tail⟩ := split?_start_cases found
      cases same
      rcases tail with ⟨rfl, rfl⟩ | ⟨rest, rfl, behind⟩
      · rw [moves.split?_cut cut]
        rfl
      · rw [List.append_assoc, List.cons_append, moves.split?_cut cut, ih behind, Option.map_map]
        rfl

theorem joined_of_split? (found : split? separator .start text = some parts) :
    parts ≠ [] ∧ List.intercalate [separator] parts = text ∧
      ∀ part ∈ parts, Moves separator .start part .start := by
  induction parts generalizing text with
  | nil =>
      obtain ⟨first, others, same, -⟩ := split?_start_cases found
      cases same
  | cons part others ih =>
      obtain ⟨first, others', same, moves, tail⟩ := split?_start_cases found
      cases same
      rcases tail with ⟨rfl, rfl⟩ | ⟨rest, rfl, behind⟩
      · simpa using moves
      · obtain ⟨filled, rfl, passed⟩ := ih behind
        refine ⟨by simp, ?_, List.forall_mem_cons.mpr ⟨moves, passed⟩⟩
        rw [List.intercalate_cons_of_ne_nil filled, List.append_assoc, List.singleton_append]

/-- Closed texts in which the separator stands behind no closed text. -/
def Uncut (separator : Char) (text : List Char) : Prop :=
  (∃ strays, Closed none strays text) ∧
    ∀ front back, text = front ++ separator :: back → ¬ ∃ strays, Closed none strays front

theorem moves_iff_uncut (cut : Scan.start.cuts separator separator = true) :
    Moves separator .start text .start ↔ Uncut separator text := by
  have accepted (text : List Char) := split?_isSome_iff separator text
  constructor
  · intro moves
    refine ⟨(accepted text).mp (by rw [moves.split?_self]; rfl), ?_⟩
    rintro front back rfl closed
    obtain ⟨parts, found⟩ := Option.isSome_iff_exists.mp ((accepted front).mpr closed)
    have told := moves.split?_self
    rw [split?_append cut found] at told
    obtain ⟨others, behind, same⟩ := Option.map_eq_some_iff.mp told
    -- There are parts on both sides of the separator.
    obtain ⟨_, _, rfl, -⟩ := split?_start_cases found
    obtain ⟨_, _, rfl, -⟩ := split?_start_cases behind
    simp at same
  · rintro ⟨closed, uncut⟩
    obtain ⟨parts, found⟩ := Option.isSome_iff_exists.mp ((accepted text).mpr closed)
    obtain ⟨first, others, rfl, moves, ⟨rfl, rfl⟩ | ⟨rest, rfl, -⟩⟩ := split?_start_cases found
    · exact moves
    · have accepted_first : (split? separator .start first).isSome = true := by
        rw [moves.split?_self]
        rfl
      exact absurd ((accepted first).mp accepted_first) (uncut first rest rfl)

theorem splitTopLevel_eq_ok_iff :
    splitTopLevel separator text = .ok parts ↔ split? separator .start text = some parts := by
  unfold splitTopLevel
  split <;> simp_all

/-- Splitting undoes joining. The parts of a text are the one list of texts that split to just
themselves and are joined to it; and the texts that split to just themselves are the uncut ones. -/
theorem split_iff_joined (unquoting : separator ≠ '"') (unopening : closerOf? separator = none)
    (text : List Char) (parts : List (List Char)) :
    (splitTopLevel separator text = .ok parts ↔ parts ≠ [] ∧
      List.intercalate [separator] parts = text ∧
        ∀ part ∈ parts, splitTopLevel separator part = .ok [part]) ∧
    (splitTopLevel separator text = .ok [text] ↔ Uncut separator text) := by
  have cut : Scan.start.cuts separator separator = true := by
    simp [Scan.cuts, Scan.start, Scan.settled, unquoting, unopening]
  simp only [splitTopLevel_eq_ok_iff, split?_eq_singleton_iff]
  refine ⟨⟨joined_of_split?, ?_⟩, moves_iff_uncut cut⟩
  rintro ⟨filled, rfl, passed⟩
  obtain ⟨first, others, rfl⟩ := List.exists_cons_of_ne_nil filled
  exact split?_intercalate cut passed

theorem split_iff_joined_of_backslash :
    ('\\' ≠ '"' ∧ closerOf? '\\' = none) ∧
    splitTopLevel '\\' "a)\\\"x\\\"y\"\\".toList =
      .ok ["a)".toList, "\"x\\\"y\"".toList, []] ∧
    List.intercalate ['\\'] ["a)".toList, "\"x\\\"y\"".toList, []] =
      "a)\\\"x\\\"y\"\\".toList ∧
    Uncut '\\' "\"x\\\"y\"".toList := by
  have told : splitTopLevel '\\' "a)\\\"x\\\"y\"\\".toList =
      .ok ["a)".toList, "\"x\\\"y\"".toList, []] := rfl
  have unquoting : '\\' ≠ '"' := by decide
  have unopening : closerOf? '\\' = none := by decide
  obtain ⟨-, joined, whole⟩ := (split_iff_joined unquoting unopening _ _).1.mp told
  have alone := whole "\"x\\\"y\"".toList (by simp)
  have uncut := (split_iff_joined unquoting unopening _ []).2.mp alone
  exact ⟨⟨unquoting, unopening⟩, told, joined, uncut⟩

end TableServer.Grammar
