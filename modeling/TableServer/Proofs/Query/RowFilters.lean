import TableServer.Proofs.Query.Reordering

/-! Filters of the rows. The filters of a query are those that its pairs spell, one for each key
that filters rows and none for any other key. -/
namespace TableServer

namespace Parameter

instance (key : String) : Decidable (FiltersRows key) :=
  inferInstanceAs (Decidable
    (key ∉ reservedKeys ∧ (Filter.isLogicKey key = true ∨ '.' ∉ key.toList)))

theorem not_filtersRows_iff {key : String} :
    ¬FiltersRows key ↔ key ∈ reservedKeys ∨ '.' ∈ key.toList ∧ Filter.isLogicKey key = false := by
  unfold FiltersRows
  by_cases reserved : key ∈ reservedKeys
  · simp [reserved]
  · cases Filter.isLogicKey key <;> simp [reserved]

def rowFilter? (x : Parameter) : Option Filter :=
  (topClause? x).bind Clause.filter?

theorem filtersRows_of_own {key : String} (free : reservedKeys.contains key = false)
    (own : embeddedKey? key = none) : FiltersRows key := by
  refine ⟨by simpa using free, ?_⟩
  unfold embeddedKey? at own
  rw [free, Bool.false_or] at own
  cases logic : Filter.isLogicKey key with
  | true => exact .inl rfl
  | false =>
      refine .inr fun dotted => ?_
      have cut := Text.cut?_isSome dotted
      rw [logic, if_neg Bool.false_ne_true] at own
      rw [own] at cut
      cases cut

theorem rowFilter?_of_read {p : Projection} {pair : String × String} {x : Parameter}
    (h : read p pair = .ok x) (other : ¬FiltersRows pair.1) : x.rowFilter? = none := by
  cases readAs_of_read h with
  | silent _ _ => rfl
  | @modifier c told _ =>
      have modifies := told.modifies
      cases c with
      | filter f => cases modifies
      | _ => rfl
  | filter f free own => exact absurd (filtersRows_of_own free own) other
  | embeddedModifier _ _ => rfl
  | embeddedFilter f _ _ => rfl

end Parameter

namespace Query

theorem filters_ofParameters (p : Projection) (parameters : List Parameter) :
    (ofParameters p parameters).scope.filters = parameters.filterMap Parameter.rowFilter? := by
  rw [ofParameters, (scope_foldl_add parameters _).1, Scope.filters_foldl_add,
    List.filterMap_filterMap]
  rfl

theorem withHeader_filters {header : Option String} {q r : Query}
    (h : withHeader header q = .ok r) : r.scope.filters = q.scope.filters := by
  unfold withHeader at h
  split at h
  · obtain ⟨w, -, rfl⟩ := Outcome.map_eq_ok_iff.mp h
    rfl
  · cases h
    rfl

theorem filters_of_read {pairs : List (String × String)} {header : Option String} {q : Query}
    (h : read pairs header = .ok q) :
    (pairs.filter fun pair => Parameter.FiltersRows pair.1).mapM
      (fun pair => readFilter pair.1.toList pair.2.toList) = .ok q.scope.filters := by
  obtain ⟨p, parameters, -, hr, hq⟩ := read_eq_ok_iff.mp h
  rw [withHeader_filters hq, filters_ofParameters, Outcome.mapM_eq_ok_iff]
  have paired := Outcome.mapM_eq_ok_iff.mp hr
  clear h hr hq
  induction paired with
  | nil => exact .nil
  | @cons pair x pairs parameters head _ ih =>
      by_cases filters : Parameter.FiltersRows pair.1
      · rw [Parameter.read_filter filters] at head
        obtain ⟨f, hf, rfl⟩ := Outcome.map_eq_ok_iff.mp head
        rw [List.filter_cons_of_pos (by simpa using filters)]
        exact .cons hf ih
      · rw [List.filter_cons_of_neg (by simpa using filters), List.filterMap_cons,
          Parameter.rowFilter?_of_read head filters]
        exact ih

end Query

end TableServer
