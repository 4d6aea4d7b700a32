import Mathlib.Data.Prod.Lex
import TableServer.Proofs.Number.Rounding
import TableServer.Proofs.Order.Stability

/-! Sorting by a measure. Where comparing keys is comparing measures of them, sorted rows stand in
the order of their measures, and those up to a bound come before the others. -/
namespace TableServer

namespace Magnitude

variable {a b : Magnitude}

theorem same_eq_place (ha : a ≠ undefined) (hb : b ≠ undefined) :
    a.same b = decide (a.place = b.place) := by
  cases a <;> cases b <;> simp_all [same, place]

end Magnitude

namespace Number

variable {a b : Number}

theorem lt_eq_place (ha : a.magnitude ≠ .undefined) (hb : b.magnitude ≠ .undefined) :
    a.lt b = decide (a.magnitude.place < b.magnitude.place) :=
  Magnitude.lt_eq_place ha hb

theorem le_eq_place (ha : a.magnitude ≠ .undefined) (hb : b.magnitude ≠ .undefined) :
    a.le b = decide (a.magnitude.place ≤ b.magnitude.place) := by
  rw [le, lt_eq_place ha hb, same, Magnitude.same_eq_place ha hb, ← Bool.decide_or,
    decide_eq_decide, le_iff_lt_or_eq]

end Number

theorem filter_append_filter_not {α : Type} {p : α → Bool} {xs : List α}
    (down : xs.Pairwise fun a b => p b = true → p a = true) :
    xs.filter p ++ xs.filter (fun x => !p x) = xs := by
  induction down with
  | nil => rfl
  | @cons a rest before _ ih =>
      by_cases holds : p a = true
      · rw [List.filter_cons_of_pos holds, List.filter_cons_of_neg (by simp [holds]),
          List.cons_append, ih]
      · have none : rest.filter p = [] :=
          List.filter_eq_nil_iff.mpr fun b hb => mt (before b hb) holds
        rw [List.filter_cons_of_neg holds, List.filter_cons_of_pos (by simp [holds])]
        rw [none, List.nil_append] at ih ⊢
        rw [ih]

namespace OrderTerm

variable {β : Type} [LinearOrder β] {t : OrderTerm} {rows : List Value} {measure : Value → β}

theorem keyed_of_keys {key : Value → Option SortKey}
    (keys : ∀ row ∈ rows, t.key? row = .ok (key row)) :
    t.keyed rows = .ok (rows.map fun row => (key row, row)) := by
  induction rows with
  | nil => rfl
  | cons row rest ih =>
      have head := keys row (by simp)
      have tail := ih fun other ho => keys other (by simp [ho])
      simp only [keyed, head, tail, Except.map, List.map_cons]

theorem exists_stable {key : Value → Option SortKey}
    (keys : ∀ row ∈ rows, t.key? row = .ok (key row))
    (fine : ∀ row ∈ rows, comparable (key row) = true)
    (told : ∀ a ∈ rows, ∀ b ∈ rows, t.lt (key a) (key b) = decide (measure a < measure b)) :
    ∃ sorted, t.sortRows rows = .ok sorted ∧
      Sorting.Stable (fun a b => if t.ascending then decide (measure a < measure b)
        else decide (measure b < measure a)) (fun a b => decide (measure a = measure b))
        rows sorted := by
  have fine' : ∀ pair ∈ rows.map (fun row => (key row, row)), comparable pair.1 = true := by
    intro pair hp
    obtain ⟨row, hr, rfl⟩ := List.mem_map.mp hp
    exact fine row hr
  have told' : ∀ a ∈ rows.map (fun row => (key row, row)),
      ∀ b ∈ rows.map (fun row => (key row, row)),
        t.lt a.1 b.1 = decide (measure a.2 < measure b.2) := by
    intro a ha b hb
    obtain ⟨row, hr, rfl⟩ := List.mem_map.mp ha
    obtain ⟨other, ho, rfl⟩ := List.mem_map.mp hb
    exact told row hr other ho
  have unpaired : (rows.map fun row => (key row, row)).map Prod.snd = rows := by
    rw [List.map_map]
    exact List.map_id' rows
  refine ⟨_, by rw [sortRows, keyed_of_keys keys]; rfl, ?_⟩
  conv => arg 3; rw [← unpaired]
  refine Sorting.Stable.map ?_
  cases t.ascending with
  | true => exact Sorting.stable_sort fine' told'
  | false => exact Sorting.stable_sortDown fine' told'

theorem exists_sorted {key : Value → SortKey}
    (keys : ∀ row ∈ rows, t.key? row = .ok (some (key row)))
    (fine : ∀ row ∈ rows, (key row).isNan = false)
    (told : ∀ a ∈ rows, ∀ b ∈ rows, (key a).lt (key b) = decide (measure a < measure b)) :
    ∃ sorted, t.sortRows rows = .ok sorted ∧ sorted.Pairwise fun a b =>
      if t.ascending then measure a ≤ measure b else measure b ≤ measure a := by
  obtain ⟨sorted, run, stable⟩ := exists_stable keys
    (fun row hr => by simp [comparable, fine row hr]) told
  refine ⟨sorted, run, stable.ordered.imp fun {a b} apart => ?_⟩
  cases hd : t.ascending <;> simpa [hd] using apart

theorem sortRows_of_tied {k : SortKey} (ascending : t.ascending = true)
    (keys : ∀ row ∈ rows, t.key? row = .ok (some k)) (fine : k.isNan = false)
    (tied : k.lt k = false) : t.sortRows rows = .ok rows := by
  have all : (rows.map fun row => (some k, row)).all (fun a => comparable a.1) = true := by
    simp [comparable, fine]
  rw [sortRows, keyed_of_keys keys]
  simp only [Except.map, ascending, if_true, Sorting.sort, if_pos all]
  rw [List.mergeSort_of_pairwise, List.map_map]
  · simp
  · refine List.pairwise_map.mpr (List.pairwise_of_forall fun a b => ?_)
    simp [OrderTerm.lt, tied]

end OrderTerm

end TableServer
