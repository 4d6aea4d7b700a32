import TableServer.Proofs.Filter.Bounds
import TableServer.Proofs.Filter.Conditions

/-! Consecutive ranges. Ascending literals divide what is read in their way into bands, one of which
holds each value. An ordering test and its opposite never agree on a value that is read, and none of
them holds of a value that is not. -/
namespace TableServer

namespace Comparison

variable {β : Type} [LinearOrder β]

theorem holdsSize_above (a b : β) : above.holdsSize a b = !most.holdsSize a b := by
  simp [holdsSize, ← not_le]

theorem holdsSize_below (a b : β) : below.holdsSize a b = !least.holdsSize a b := by
  simp [holdsSize, ← not_le]

end Comparison

namespace Bound

/-- An earlier instant, or a smaller number. -/
def Before : Bound → Bound → Prop
  | instant i, instant j => i.lt j = true
  | number m, number n => m.lt n = true
  | _, _ => False

variable {a b : Bound}

theorem Before.reading_eq (h : a.Before b) (v : Value) : b.reading v = a.reading v := by
  cases a <;> cases b <;> first | rfl | exact h.elim

theorem Before.size_lt (h : a.Before b) (ha : a.isNan = false) (hb : b.isNan = false) :
    a.size < b.size := by
  cases a with
  | instant i =>
      cases b with
      | instant j => exact size_instant_lt.mpr (of_decide_eq_true h)
      | number n => exact h.elim
  | number m =>
      cases b with
      | instant j => exact h.elim
      | number n =>
          have told := Number.lt_eq_place (Value.magnitude_ne_undefined ha)
            (Value.magnitude_ne_undefined hb)
          exact of_decide_eq_true (told.symm.trans h)

end Bound

namespace Filter

/-- The expressions are read as filters of the column, which together answer so for the row. -/
def AnswersTogether (column : List Char) (expressions : List (List Char)) (row : Value)
    (b : Bool) : Prop :=
  ∃ fs f, expressions.mapM (read column) = .ok fs ∧ conjoin fs = some f ∧ f.holds row = .ok b

variable {column first second literal : List Char} {row : Value} {b : Bool} {bound r : Bound}

theorem Answers.alone (h : Answers column first row b) : AnswersTogether column [first] row b := by
  obtain ⟨f, hf, hb⟩ := h
  exact ⟨[f], f, Outcome.mapM_cons_eq_ok_iff.mpr ⟨f, [], hf, rfl, rfl⟩, rfl, hb⟩

theorem Answers.together {b' : Bool} (h : Answers column first row b)
    (h' : Answers column second row b') :
    AnswersTogether column [first, second] row (b && b') := by
  obtain ⟨f, hf, hb⟩ := h
  obtain ⟨g, hg, hb'⟩ := h'
  have tail : [second].mapM (read column) = .ok [g] :=
    Outcome.mapM_cons_eq_ok_iff.mpr ⟨g, [], hg, rfl, rfl⟩
  refine ⟨[f, g], .conjunction [f, g],
    Outcome.mapM_cons_eq_ok_iff.mpr ⟨f, [g], hf, tail, rfl⟩, rfl, ?_⟩
  rw [holds, allHold, hb]
  cases b with
  | true =>
      rw [Bool.true_and, allHold, hb']
      cases b' <;> rfl
  | false => rfl

/-- One of the groups of expressions answers true for the row, and all others false. -/
def OneAnswers (column : List Char) (groups : List (List (List Char))) (row : Value) : Prop :=
  ∃ before group after, groups = before ++ group :: after ∧
    AnswersTogether column group row true ∧
    ∀ other ∈ before ++ after, AnswersTogether column other row false

namespace OneAnswers

variable {group : List (List Char)} {groups : List (List (List Char))}

theorem head (hit : AnswersTogether column group row true)
    (missed : ∀ other ∈ groups, AnswersTogether column other row false) :
    OneAnswers column (group :: groups) row :=
  ⟨[], group, groups, rfl, hit, missed⟩

theorem tail (missed : AnswersTogether column group row false) (h : OneAnswers column groups row) :
    OneAnswers column (group :: groups) row := by
  obtain ⟨before, hit, after, rfl, hits, others⟩ := h
  exact ⟨group :: before, hit, after, rfl, hits, List.forall_mem_cons.mpr ⟨missed, others⟩⟩

end OneAnswers

/-- The bands from a literal on: up to each next literal, and from the last one without an end. -/
def bandsFrom (literal : List Char) : List (List Char) → List (List (List Char))
  | [] => [[expression .gte literal]]
  | next :: rest => [expression .gte literal, expression .lt next] :: bandsFrom next rest

/-- The bands between literals, and those below the first and from the last one on. -/
def bands (literal : List Char) (rest : List (List Char)) : List (List (List Char)) :=
  [expression .lt literal] :: bandsFrom literal rest

section

variable {members : Members} {v : Value}
  (held : resolveColumn members (String.ofList column) = .ok v)
include held

theorem answers_compares (told : Test.readBound literal = .ok bound) (c : Comparison) :
    Answers column (expression (Test.compares c bound).operator literal) (.object members)
      (bound.holds c v) :=
  answers_expression (Test.read_compares told c) held

variable (hr : r.isNan = false)
include hr

theorem answers_size (told : Test.readBound literal = .ok bound)
    (reads : bound.reading v = some r) (c : Comparison) :
    Answers column (expression (Test.compares c bound).operator literal) (.object members)
      (c.holdsSize r.size bound.size) := by
  rw [← Bound.holds_of_reading reads (Bound.isNan_of_readBound told) hr]
  exact answers_compares held told c

theorem bandsFrom_missed {rest : List (List Char)} {others : List Bound}
    (told : List.Forall₂ (fun l b => Test.readBound l = .ok b) (literal :: rest) (bound :: others))
    (ascending : (bound :: others).IsChain Bound.Before) (reads : bound.reading v = some r)
    (below : r.size < bound.size) :
    ∀ band ∈ bandsFrom literal rest, AnswersTogether column band (.object members) false := by
  induction rest generalizing literal bound others with
  | nil =>
      obtain ⟨first, -⟩ := List.forall₂_cons.mp told
      have least := answers_size held hr first reads .least
      rw [Comparison.holdsSize, decide_eq_false (not_le.mpr below)] at least
      intro band hb
      obtain rfl := List.mem_singleton.mp hb
      exact least.alone
  | cons next rest ih =>
      obtain ⟨first, behind⟩ := List.forall₂_cons.mp told
      cases behind with
      | @cons _ c _ others second behind =>
          obtain ⟨before, ascending⟩ := List.isChain_cons_cons.mp ascending
          have reads' : c.reading v = some r := (before.reading_eq v).trans reads
          have further : r.size < c.size := below.trans
            (before.size_lt (Bound.isNan_of_readBound first) (Bound.isNan_of_readBound second))
          have least := answers_size held hr first reads .least
          rw [Comparison.holdsSize, decide_eq_false (not_le.mpr below)] at least
          have upper := answers_size held hr second reads' .below
          refine List.forall_mem_cons.mpr ⟨least.together upper, ?_⟩
          exact ih (.cons second behind) ascending reads' further

theorem bandsFrom_hit {rest : List (List Char)} {others : List Bound}
    (told : List.Forall₂ (fun l b => Test.readBound l = .ok b) (literal :: rest) (bound :: others))
    (ascending : (bound :: others).IsChain Bound.Before) (reads : bound.reading v = some r)
    (reached : bound.size ≤ r.size) :
    OneAnswers column (bandsFrom literal rest) (.object members) := by
  induction rest generalizing literal bound others with
  | nil =>
      obtain ⟨first, -⟩ := List.forall₂_cons.mp told
      have least := answers_size held hr first reads .least
      rw [Comparison.holdsSize, decide_eq_true reached] at least
      exact .head least.alone (by simp)
  | cons next rest ih =>
      obtain ⟨first, behind⟩ := List.forall₂_cons.mp told
      cases behind with
      | @cons _ c _ others second behind =>
          obtain ⟨before, ascending⟩ := List.isChain_cons_cons.mp ascending
          have reads' : c.reading v = some r := (before.reading_eq v).trans reads
          have least := answers_size held hr first reads .least
          have upper := answers_size held hr second reads' .below
          rw [Comparison.holdsSize, decide_eq_true reached] at least
          rw [Comparison.holdsSize] at upper
          -- The band from the first literal to the next one holds the value, or a later one does.
          rcases lt_or_ge r.size c.size with below | above
          · rw [decide_eq_true below] at upper
            exact .head (least.together upper)
              (bandsFrom_missed held hr (.cons second behind) ascending reads' below)
          · rw [decide_eq_false (not_lt.mpr above)] at upper
            exact .tail (least.together upper) (ih (.cons second behind) ascending reads' above)

end

theorem exists_bound {rest : List (List Char)} {others : List Bound}
    (told : List.Forall₂ (fun l b => Test.readBound l = .ok b) (first :: rest) (bound :: others))
    (ascending : (bound :: others).IsChain Bound.Before) (v : Value) :
    ∀ literal ∈ first :: rest, ∃ b, Test.readBound literal = .ok b ∧
      b.reading v = bound.reading v := by
  induction rest generalizing first bound others with
  | nil =>
      intro literal hl
      obtain rfl := List.mem_singleton.mp hl
      exact ⟨bound, (List.forall₂_cons.mp told).1, rfl⟩
  | cons next rest ih =>
      obtain ⟨read, behind⟩ := List.forall₂_cons.mp told
      cases behind with
      | cons second behind =>
          obtain ⟨before, ascending⟩ := List.isChain_cons_cons.mp ascending
          refine List.forall_mem_cons.mpr ⟨⟨bound, read, rfl⟩, ?_⟩
          rw [← before.reading_eq v]
          exact ih (.cons second behind) ascending

/-- Ascending literals divide the values that are read in their way, so that one band holds each of
them and a test and its opposite never agree. No test holds of any other value. -/
theorem bands_of_ascending (column : List Char) {first : List Char} {rest : List (List Char)}
    {bound : Bound} {others : List Bound}
    (told : List.Forall₂ (fun l b => Test.readBound l = .ok b) (first :: rest) (bound :: others))
    (ascending : (bound :: others).IsChain Bound.Before) {members : Members} {v : Value}
    (held : resolveColumn members (String.ofList column) = .ok v) :
    (∀ r, bound.reading v = some r → r.isNan = false →
      OneAnswers column (bands first rest) (.object members) ∧
      ∀ literal ∈ first :: rest,
        (∃ b, Answers column (expression .lte literal) (.object members) b ∧
          Answers column (expression .gt literal) (.object members) !b) ∧
        ∃ b, Answers column (expression .gte literal) (.object members) b ∧
          Answers column (expression .lt literal) (.object members) !b) ∧
    (bound.reading v = none → ∀ literal ∈ first :: rest, ∀ operator ∈ [.gt, .gte, .lt, .lte],
      Answers column (expression operator literal) (.object members) false) := by
  have each := exists_bound told ascending v
  refine ⟨fun r reads hr => ⟨?_, fun literal hl => ?_⟩, fun unread literal hl operator ho => ?_⟩
  · have lowest := (List.forall₂_cons.mp told).1
    have below := answers_size held hr lowest reads .below
    rw [Comparison.holdsSize] at below
    rcases lt_or_ge r.size bound.size with under | reached
    · rw [decide_eq_true under] at below
      exact .head below.alone (bandsFrom_missed held hr told ascending reads under)
    · rw [decide_eq_false (not_lt.mpr reached)] at below
      exact .tail below.alone (bandsFrom_hit held hr told ascending reads reached)
  · obtain ⟨b, read, same⟩ := each literal hl
    have size := answers_size held hr read (same.trans reads)
    have above := size .above
    have below := size .below
    rw [Comparison.holdsSize_above] at above
    rw [Comparison.holdsSize_below] at below
    exact ⟨⟨_, size .most, above⟩, ⟨_, size .least, below⟩⟩
  · obtain ⟨b, read, same⟩ := each literal hl
    have missed (c : Comparison) := answers_compares held read c
    simp only [Bound.holds_of_unread (same.trans unread)] at missed
    simp only [List.mem_cons, List.not_mem_nil, or_false] at ho
    rcases ho with rfl | rfl | rfl | rfl
    · exact missed .above
    · exact missed .least
    · exact missed .below
    · exact missed .most

theorem bands_of_spring_days :
    List.Forall₂ (fun l b => Test.readBound l = .ok b)
        ["2024-05-01".toList, "2024-05-01T02:00:00+01:00".toList, "2024-05-02".toList]
        [.instant ⟨⟨2024, 5, 1⟩, .midnight, 0⟩,
          .instant ⟨⟨2024, 5, 1⟩, ⟨2, 0, 0, 0⟩, 3600000000⟩,
          .instant ⟨⟨2024, 5, 2⟩, .midnight, 0⟩] ∧
      OneAnswers "t".toList
        (bands "2024-05-01".toList ["2024-05-01T02:00:00+01:00".toList, "2024-05-02".toList])
        (.object [("t", .string "2024-05-01 00:30:00Z")]) ∧
      Answers "t".toList (expression .lt "2024-05-02".toList)
        (.object [("t", .ofInt 7)]) false := by
  have told : List.Forall₂ (fun l b => Test.readBound l = .ok b)
      ["2024-05-01".toList, "2024-05-01T02:00:00+01:00".toList, "2024-05-02".toList]
      [.instant ⟨⟨2024, 5, 1⟩, .midnight, 0⟩, .instant ⟨⟨2024, 5, 1⟩, ⟨2, 0, 0, 0⟩, 3600000000⟩,
        .instant ⟨⟨2024, 5, 2⟩, .midnight, 0⟩] :=
    .cons rfl (.cons rfl (.cons rfl .nil))
  have ascending : [Bound.instant ⟨⟨2024, 5, 1⟩, .midnight, 0⟩,
      .instant ⟨⟨2024, 5, 1⟩, ⟨2, 0, 0, 0⟩, 3600000000⟩,
      .instant ⟨⟨2024, 5, 2⟩, .midnight, 0⟩].IsChain Bound.Before :=
    .cons_cons (by decide : Instant.lt _ _ = true)
      (.cons_cons (by decide : Instant.lt _ _ = true) (.singleton _))
  have held : resolveColumn [("t", .string "2024-05-01 00:30:00Z")] "t" =
      .ok (.string "2024-05-01 00:30:00Z") := rfl
  have other : resolveColumn [("t", .ofInt 7)] "t" = .ok (.ofInt 7) := rfl
  refine ⟨told, ?_, ?_⟩
  · exact ((bands_of_ascending "t".toList told ascending held).1
      (.instant ⟨⟨2024, 5, 1⟩, ⟨0, 30, 0, 0⟩, 0⟩) rfl rfl).1
  · exact (bands_of_ascending "t".toList told ascending other).2 rfl _ (by simp) .lt (by simp)

end Filter

end TableServer
