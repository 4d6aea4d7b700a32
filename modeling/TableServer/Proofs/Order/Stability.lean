import Mathlib.Order.Lattice
import TableServer.Proofs.Order.Sorting

/-! Stable sorting. What is sorted stands in the order of a comparison, and elements that tie stand
as they were given. Sorting by measures is stable upwards and downwards, and sorting a second time
sorts by the second comparison first. -/
namespace TableServer.Sorting

variable {α β γ : Type}

/-- Sorted elements are the given ones. None stands behind one that it precedes, and those that tie
with any of them keep their order. -/
structure Stable (precedes ties : α → α → Bool) (given sorted : List α) : Prop where
  perm : sorted.Perm given
  ordered : sorted.Pairwise fun a b => precedes b a = false
  kept : ∀ a ∈ given, sorted.filter (ties a) = given.filter (ties a)

namespace Stable

variable {precedes ties precedes' ties' : α → α → Bool} {given between sorted : List α}

theorem congr (h : Stable precedes ties given sorted)
    (same : ∀ a ∈ given, ∀ b ∈ given, precedes a b = precedes' a b ∧ ties a b = ties' a b) :
    Stable precedes' ties' given sorted := by
  refine ⟨h.perm, h.ordered.imp_of_mem fun ha hb told => ?_, fun a ha => ?_⟩
  · rwa [← (same _ (h.perm.mem_iff.mp hb) _ (h.perm.mem_iff.mp ha)).1]
  · have alike : ∀ b ∈ given, ties a b = ties' a b := fun b hb => (same a ha b hb).2
    rw [← List.filter_congr alike, ← h.kept a ha]
    exact (List.filter_congr fun b hb => alike b (h.perm.mem_iff.mp hb)).symm

theorem reverse (h : Stable precedes ties given.reverse sorted) :
    Stable (fun a b => precedes b a) ties given sorted.reverse := by
  refine ⟨?_, List.pairwise_reverse.mpr h.ordered, fun a ha => ?_⟩
  · exact (List.reverse_perm sorted).trans (h.perm.trans (List.reverse_perm given))
  · rw [List.filter_reverse, h.kept a (List.mem_reverse.mpr ha), List.filter_reverse,
      List.reverse_reverse]

theorem map {precedes ties : γ → γ → Bool} {f : α → γ}
    (h : Stable (fun a b => precedes (f a) (f b)) (fun a b => ties (f a) (f b)) given sorted) :
    Stable precedes ties (given.map f) (sorted.map f) := by
  refine ⟨h.perm.map f, List.pairwise_map.mpr h.ordered, fun c hc => ?_⟩
  obtain ⟨a, ha, rfl⟩ := List.mem_map.mp hc
  simp only [List.filter_map, Function.comp_def, h.kept a ha]

/-- Sorting by a second comparison keeps the order of the first one where the second one ties. -/
theorem thenBy (minor : Stable precedes ties given between)
    (major : Stable precedes' ties' between sorted) (refl : ∀ a, ties' a a = true) :
    Stable (fun a b => precedes' a b || (ties' a b && precedes a b))
      (fun a b => ties' a b && ties a b) given sorted := by
  refine ⟨major.perm.trans minor.perm, ?_, fun a ha => ?_⟩
  · rw [List.pairwise_iff_forall_sublist]
    intro a b pair
    have apart : precedes' b a = false := List.pairwise_iff_forall_sublist.mp major.ordered pair
    have member : b ∈ between := major.perm.mem_iff.mp (pair.subset (by simp))
    cases tied : ties' b a with
    | false => simp [apart]
    | true =>
        -- A pair that ties stands in the same order in what was sorted first.
        have before : [a, b].Sublist between := by
          have both := pair.filter (ties' b)
          rw [major.kept b member, List.filter_cons_of_pos tied,
            List.filter_cons_of_pos (refl b)] at both
          exact both.trans List.filter_sublist
        simpa [apart] using List.pairwise_iff_forall_sublist.mp minor.ordered before
  · calc
      sorted.filter (fun b => ties' a b && ties a b) =
          (sorted.filter (ties' a)).filter (ties a) := by
        simp only [List.filter_filter, Bool.and_comm]
      _ = (between.filter (ties' a)).filter (ties a) := by
        rw [major.kept a (minor.perm.mem_iff.mpr ha)]
      _ = (between.filter (ties a)).filter (ties' a) := by
        simp only [List.filter_filter, Bool.and_comm]
      _ = given.filter (fun b => ties' a b && ties a b) := by
        rw [minor.kept a ha, List.filter_filter]

end Stable

theorem mergeSort_congr {le le' : α → α → Bool} {xs : List α}
    (same : ∀ a ∈ xs, ∀ b ∈ xs, le a b = le' a b) : xs.mergeSort le = xs.mergeSort le' := by
  simpa using List.map_mergeSort (f := id) same

section Measured

variable [LinearOrder β] {measure : α → β} {comparable : α → Bool} {lt : α → α → Bool}
  {xs : List α}

theorem stable_mergeSort (measure : α → β) (xs : List α) :
    Stable (fun a b => decide (measure a < measure b)) (fun a b => decide (measure a = measure b))
      xs (xs.mergeSort fun a b => decide (measure a ≤ measure b)) := by
  have trans (a b c : α) (hab : decide (measure a ≤ measure b) = true)
      (hbc : decide (measure b ≤ measure c) = true) : decide (measure a ≤ measure c) = true :=
    decide_eq_true (le_trans (of_decide_eq_true hab) (of_decide_eq_true hbc))
  have total (a b : α) :
      (decide (measure a ≤ measure b) || decide (measure b ≤ measure a)) = true := by
    simpa using le_total (measure a) (measure b)
  have perm := List.mergeSort_perm xs fun a b => decide (measure a ≤ measure b)
  refine ⟨perm, ?_, fun a _ => ?_⟩
  · exact (List.pairwise_mergeSort trans total xs).imp fun told =>
      decide_eq_false (not_lt.mpr (of_decide_eq_true told))
  · have tied : (xs.filter fun b => decide (measure a = measure b)).Pairwise
        fun b c => decide (measure b ≤ measure c) = true :=
      List.pairwise_of_forall_mem_list fun b hb c hc => by
        have hab := of_decide_eq_true (List.mem_filter.mp hb).2
        have hac := of_decide_eq_true (List.mem_filter.mp hc).2
        exact decide_eq_true (le_of_eq (hab.symm.trans hac))
    have among := (List.sublist_mergeSort trans total tied List.filter_sublist).filter
      fun b => decide (measure a = measure b)
    rw [List.filter_filter] at among
    simp only [Bool.and_self] at among
    exact (among.eq_of_length (perm.filter _).length_eq.symm).symm

variable (fine : ∀ a ∈ xs, comparable a = true)
  (told : ∀ a ∈ xs, ∀ b ∈ xs, lt a b = decide (measure a < measure b))

include fine told

theorem stable_sort :
    Stable (fun a b => decide (measure a < measure b)) (fun a b => decide (measure a = measure b))
      xs (sort comparable lt xs) := by
  have same : xs.mergeSort (fun a b => !lt b a) =
      xs.mergeSort fun a b => decide (measure a ≤ measure b) :=
    mergeSort_congr fun a ha b hb => by rw [told b hb a ha, ← decide_not, decide_eq_decide, not_lt]
  rw [sort, if_pos (List.all_eq_true.mpr fine), same]
  exact stable_mergeSort measure xs

theorem stable_sortDown :
    Stable (fun a b => decide (measure b < measure a)) (fun a b => decide (measure a = measure b))
      xs (sortDown comparable lt xs) := by
  refine Stable.reverse (stable_sort ?_ ?_)
  · exact fun a ha => fine a (List.mem_reverse.mp ha)
  · exact fun a ha b hb => told a (List.mem_reverse.mp ha) b (List.mem_reverse.mp hb)

end Measured

end TableServer.Sorting
