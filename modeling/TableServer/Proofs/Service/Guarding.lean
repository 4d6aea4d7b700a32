import TableServer.Proofs.Query.RowFilters
import TableServer.Proofs.Service.Answers
import TableServer.Proofs.Service.Changes
import TableServer.Proofs.Service.Refusal

/-! Guarded writes. An update and a deletion change and remove only rows that satisfy every filter
of the query, and a query without a filter of the rows is refused. -/
namespace TableServer

open RowPredicate

def Parameter.SatisfiedBy (pair : String × String) (row : Value) : Prop :=
  ∃ f, readFilter pair.1.toList pair.2.toList = .ok f ∧ f.holds row = .ok true

namespace Request

def rowFilters (r : Request) : List (String × String) :=
  r.query.filter fun pair => Parameter.FiltersRows pair.1

/-- A row that satisfies every filter of a query, where there is one. -/
structure Selects (r : Request) (row : Value) : Prop where
  given : r.rowFilters ≠ []
  satisfied : ∀ pair ∈ r.rowFilters, Parameter.SatisfiedBy pair row

variable {r : Request} {q : Query}

theorem rowFilters_eq_nil_iff :
    r.rowFilters = [] ↔ ∀ pair ∈ r.query,
      pair.1 ∈ reservedKeys ∨ '.' ∈ pair.1.toList ∧ Filter.isLogicKey pair.1 = false := by
  simp only [rowFilters, List.filter_eq_nil_iff, decide_eq_true_eq, Parameter.not_filtersRows_iff]

theorem filters_eq_nil_iff (parsed : Query.read r.query (r.header? "range") = .ok q) :
    q.scope.filters = [] ↔ r.rowFilters = [] := by
  rw [← List.length_eq_zero_iff, Outcome.length_of_mapM (Query.filters_of_read parsed)]
  exact List.length_eq_zero_iff

theorem selects_of_chooses (parsed : Query.read r.query (r.header? "range") = .ok q)
    {p : RowPredicate} (told : Service.predicateOf q = some p) {row : Value}
    (chosen : chooses p row = true) : r.Selects row := by
  obtain ⟨f, joined, rfl⟩ := Option.map_eq_some_iff.mp told
  have holds := (Filter.holds_conjoin joined).mp (chooses_eq_true_iff.mp chosen)
  constructor
  · intro none_given
    have unjoined : q.scope.predicate? = none :=
      Filter.conjoin_eq_none_iff.mpr ((filters_eq_nil_iff parsed).mpr none_given)
    cases unjoined.symm.trans joined
  · intro pair hp
    obtain ⟨part, hm, read⟩ := Outcome.read_of_mem_mapM (Query.filters_of_read parsed) hp
    exact ⟨part, read, holds part hm⟩

theorem predicateOf_of_no_filter (parsed : Query.read r.query (r.header? "range") = .ok q)
    (unfiltered : r.rowFilters = []) : Service.predicateOf q = none := by
  rw [Service.predicateOf, Scope.predicate?, (filters_eq_nil_iff parsed).mpr unfiltered]
  rfl

end Request

/-- Failures that are answered, if they are, with the status of a request that is at fault. -/
def Failure.Blames : Failure → Prop
  | .service e => e.status = 400
  | .fault _ => True

theorem Failure.Due.blames {sources : List (List Char)} {failure : Failure}
    (h : failure.Due sources) : failure.Blames := by
  cases failure with
  | service e => exact h
  | fault f => trivial

namespace Store

variable (s : Store) (name : String)

theorem update_unfiltered (payload : Value) :
    ∃ failure, s.update name none payload = (.error failure, s) ∧ failure.Blames := by
  -- A payload that is no object is refused before the missing filter is.
  cases payload <;> exact ⟨_, rfl, rfl⟩

theorem delete_unfiltered :
    ∃ failure, s.delete name none = (.error failure, s) ∧ failure.Blames :=
  ⟨_, rfl, rfl⟩

end Store

namespace Service

variable {s : Service} {r : Request} {route : Route}

theorem requestBody_blames : FailsOnly Failure.Blames (requestBody route r) := by
  unfold requestBody Request.jsonBody
  repeat' split
  all_goals trivial

theorem kind_of_verb (h : s.Addresses r route) (verb : r.verb = "PATCH" ∨ r.verb = "DELETE") :
    route.kind = .update ∨ route.kind = .delete := by
  have kind := h.tableKind_eq
  rcases verb with verb | verb
  · rw [verb] at kind
    exact .inl (Except.ok.inj kind).symm
  · rw [verb] at kind
    exact .inr (Except.ok.inj kind).symm

theorem runTable_unfiltered (kind : route.kind = .update ∨ route.kind = .delete)
    (prefs : Preferences) (body : Value) {q : Query} (unfiltered : predicateOf q = none) :
    ∃ failure, s.runTable route r prefs body q = (.error failure, s.store) ∧ failure.Blames := by
  rcases kind with kind | kind
  · obtain ⟨failure, refused, blames⟩ := s.store.update_unfiltered route.qualified body
    exact ⟨failure, by simp [runTable, kind, unfiltered, refused, Store.touched, finishWrite,
      Except.map, Except.bind], blames⟩
  · obtain ⟨failure, refused, blames⟩ := s.store.delete_unfiltered route.qualified
    exact ⟨failure, by simp [runTable, kind, unfiltered, refused, finishWrite, Except.bind], blames⟩

theorem handle_unfiltered (quiet : s.trigger = none) (addressed : s.Addresses r route)
    (verb : r.verb = "PATCH" ∨ r.verb = "DELETE") (unfiltered : r.rowFilters = []) :
    ∃ failure : Failure, s.handle r = s.refuse failure none ∧ failure.Blames := by
  rw [handle_of_quiet addressed quiet]
  refine requestBody_blames.elim (fun body _ _ => ?_) fun failure blames => ⟨failure, rfl, blames⟩
  have read := Query.read_yields (spelt_query r) (spelt_range r)
  refine read.elim (fun q parsed _ => ?_) fun failure due => ⟨failure, rfl, due.blames⟩
  obtain ⟨failure, refused, blames⟩ := runTable_unfiltered (r := r) (kind_of_verb addressed verb)
    (preferences r) body (Request.predicateOf_of_no_filter parsed unfiltered)
  exact ⟨failure, congrArg (exchange · none) refused, blames⟩

/-- An update and a deletion spare every row that does not satisfy all filters of the query, and all
rows where the query has none. Then they are refused: what they are answered blames the request. -/
theorem rows_of_guarded_write (quiet : s.trigger = none)
    (objects : ∀ name, AllObjects (s.store.rows name)) (addressed : s.Addresses r route)
    (verb : r.verb = "PATCH" ∨ r.verb = "DELETE") :
    (∀ name, Table.Spares r.Selects (s.store.rows name) ((s.handle r).store.rows name)) ∧
      ((∀ pair ∈ r.query,
          pair.1 ∈ reservedKeys ∨ '.' ∈ pair.1.toList ∧ Filter.isLogicKey pair.1 = false) →
        (s.handle r).store = s.store ∧
          ∀ response, (s.handle r).outcome = .ok response → response.status = 400) := by
  constructor
  · intro name
    rcases store_cases objects addressed.callsNoHandler with same | ⟨other, body, q, new, rewrites⟩
    · rw [same]
      exact .refl _ _
    · obtain rfl := Except.ok.inj (rewrites.addresses.classified.symm.trans addressed.classified)
      rw [rewrites.store]
      by_cases here : name = other.qualified
      · rw [here, Store.rows_put_self]
        have kind := kind_of_verb addressed verb
        cases rewrites.becomes with
        | inserted insert _ => simp [insert] at kind
        | upserted upsert _ _ => simp [upsert] at kind
        | updated _ _ told _ =>
            exact .map (fun row _ => Request.selects_of_chooses rewrites.parses told) _
        | deleted _ told _ =>
            exact .filter fun row _ => Request.selects_of_chooses rewrites.parses told
      · rw [Store.rows_put_of_ne here]
        exact .refl _ _
  · intro unfiltered
    obtain ⟨failure, refused, blames⟩ :=
      handle_unfiltered quiet addressed verb (Request.rowFilters_eq_nil_iff.mpr unfiltered)
    rw [refused]
    refine ⟨rfl, fun response answered => ?_⟩
    cases failure with
    | fault f => cases answered
    | service e =>
        cases answered
        exact blames

theorem rows_of_guarded_deletions :
    (∀ name, Table.Spares misshapenDeletion.Selects (twoPosts.store.rows name)
      ((twoPosts.handle misshapenDeletion).store.rows name)) ∧
      (twoPosts.handle unfilteredDeletion).store = twoPosts.store ∧
        ∀ response, (twoPosts.handle unfilteredDeletion).outcome = .ok response →
          response.status = 400 :=
  ⟨(rows_of_guarded_write rfl twoPosts_objects misshapenDeletion_addresses (.inr (by rfl))).1,
    (rows_of_guarded_write rfl twoPosts_objects unfilteredDeletion_addresses (.inr (by rfl))).2
      (by simp [unfilteredDeletion])⟩

end Service

end TableServer
