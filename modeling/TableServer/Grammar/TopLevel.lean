import TableServer.Failure

/-! Splitting at top level: outside of brackets and double quotes. Inside quotes a backslash
protects the character behind it. -/
namespace TableServer.Grammar

/-- What a scan is inside of: the closing brackets that are due, innermost first, quotes, and
the protection of a backslash. -/
structure Scan where
  closers : List Char
  quoted : Bool
  escaped : Bool
deriving DecidableEq

def closerOf? (c : Char) : Option Char :=
  if c = '(' then some ')'
  else if c = '\x7b' then some '\x7d'
  else if c = '[' then some ']'
  else none

namespace Scan

def start : Scan := ⟨[], false, false⟩

/-- A closing bracket that is not due counts as any other character. -/
def next (s : Scan) (c : Char) : Scan :=
  if s.escaped then { s with escaped := false }
  else if c = '\\' ∧ s.quoted then { s with escaped := true }
  else if c = '"' then { s with quoted := !s.quoted }
  else if s.quoted then s
  else
    match closerOf? c with
    | some closer => { s with closers := closer :: s.closers }
    | none => if s.closers.head? = some c then { s with closers := s.closers.tail } else s

/-- A text may end where no quote and no bracket is open. -/
def settled (s : Scan) : Bool :=
  !s.quoted && s.closers.isEmpty

/-- Whether the separator cuts here. A quote and an opening bracket never do. -/
def cuts (separator : Char) (s : Scan) (c : Char) : Bool :=
  s.settled && !s.escaped && c = separator && c ≠ '"' && (closerOf? c).isNone

end Scan

def consFirst (c : Char) : List (List Char) → List (List Char)
  | [] => [[c]]
  | part :: parts => (c :: part) :: parts

/-- The parts between top-level separators, unless a quote or a bracket stays open. -/
def split? (separator : Char) (s : Scan) : List Char → Option (List (List Char))
  | [] => if s.settled then some [[]] else none
  | c :: rest =>
      if s.cuts separator c then (split? separator s rest).map ([] :: ·)
      else (split? separator (s.next c) rest).map (consFirst c)

def splitTopLevel (separator : Char) (text : List Char) : Outcome (List (List Char)) :=
  match split? separator .start text with
  | some parts => .ok parts
  | none =>
      .error (.malformed ("Unbalanced quotes or brackets in \"" ++ String.ofList text ++ "\""))

theorem length_of_mem_split {separator : Char} :
    ∀ {text : List Char} {s : Scan} {parts : List (List Char)},
      split? separator s text = some parts → ∀ part ∈ parts, part.length ≤ text.length := by
  intro text
  induction text with
  | nil =>
      intro s parts h part hp
      simp only [split?] at h
      split at h
      · simp only [Option.some.injEq] at h
        subst h
        simp_all
      · simp at h
  | cons c rest ih =>
      intro s parts h part hp
      simp only [split?] at h
      split at h
      · obtain ⟨inner, hi, rfl⟩ := Option.map_eq_some_iff.mp h
        rcases List.mem_cons.mp hp with rfl | hm
        · simp
        · exact Nat.le_succ_of_le (ih hi part hm)
      · obtain ⟨inner, hi, rfl⟩ := Option.map_eq_some_iff.mp h
        cases inner with
        | nil =>
            simp only [consFirst, List.mem_singleton] at hp
            subst hp
            simp
        | cons first others =>
            rcases List.mem_cons.mp hp with rfl | hm
            · simpa using ih hi first (by simp)
            · exact Nat.le_succ_of_le (ih hi part (by simp [hm]))

theorem length_of_mem_splitTopLevel {separator : Char} {text : List Char}
    {parts : List (List Char)} (h : splitTopLevel separator text = .ok parts) :
    ∀ part ∈ parts, part.length ≤ text.length := by
  unfold splitTopLevel at h
  split at h
  · simp only [Except.ok.injEq] at h
    subst h
    exact length_of_mem_split (by assumption)
  · simp at h

end TableServer.Grammar
