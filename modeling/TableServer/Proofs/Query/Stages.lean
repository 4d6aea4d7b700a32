import TableServer.Proofs.Order.Sorting
import TableServer.Proofs.Table.Choice
import TableServer.Query.Run

/-! Stages of a query. A stage that treats each row on its own is a fallible function mapped over
the rows, so it keeps their number and goes past any window. -/
namespace TableServer

theorem Window.apply_of_mapM {ε α : Type} {f : Value → Except ε α} {rows : List Value}
    {out : List α}
    (h : rows.mapM f = .ok out) (w : Window) : (w.apply rows).mapM f = .ok (w.apply out) := by
  have behind := List.forall₂_drop (w.offset.getD 0) (Outcome.mapM_eq_ok_iff.mp h)
  unfold Window.apply
  cases w.limit with
  | none => exact Outcome.mapM_eq_ok_iff.mpr behind
  | some n => exact Outcome.mapM_eq_ok_iff.mpr (List.forall₂_take n behind)

theorem Projection.rows_eq_mapM (p : Projection) (rows : List Value) :
    p.rows rows = rows.mapM p.row := by
  induction rows with
  | nil => rfl
  | cons r rest ih =>
      rw [Projection.rows, List.mapM_cons, ih]
      cases p.row r <;> rfl

theorem Projection.length_rows {p : Projection} {rows shown : List Value}
    (h : p.rows rows = .ok shown) : shown.length = rows.length := by
  rw [Projection.rows_eq_mapM] at h
  exact Outcome.length_of_mapM h

theorem Projection.everything_rows {rows : List Value}
    (objects : ∀ row ∈ rows, row.isObject = true) :
    Projection.everything.rows rows = .ok rows := by
  induction rows with
  | nil => rfl
  | cons row rest ih =>
      have object := objects row (by simp)
      have tail := ih fun other ho => objects other (by simp [ho])
      cases row with
      | object members =>
          have head : Projection.everything.row (.object members) = .ok (.object members) := rfl
          simp [Projection.rows, head, tail, Except.map]
      | _ => cases object

namespace Query

theorem stage_eq_ok_iff {α : Type} {x : Except Fault α} {a : α} :
    stage x = .ok a ↔ x = .ok a := by
  cases x <;> simp [stage]

theorem overRows_eq_mapM (f : Value → Outcome Value) (rows : List Value) :
    overRows f rows = rows.mapM f := by
  induction rows with
  | nil => rfl
  | cons row rest ih =>
      rw [overRows, List.mapM_cons, ih]
      cases f row <;> rfl

/-- Changes the lists that rows hold of the relations, but for those that are passed over. -/
def overRelations (passed : Scope → Bool) (change : Scope → List Value → Except Fault (List Value)) :
    Entries Scope → List Value → Outcome (List Value)
  | [], rows => .ok rows
  | (relation, s) :: rest, rows =>
      if passed s then overRelations passed change rest rows
      else
        match overRows (mapList relation (change s)) rows with
        | .error e => .error e
        | .ok rows => overRelations passed change rest rows

theorem orderRelations_eq (embedded : Entries Scope) (rows : List Value) :
    orderRelations embedded rows =
      overRelations (·.order.isEmpty) (fun s => orderRows s.order) embedded rows := by
  induction embedded generalizing rows with
  | nil => rfl
  | cons entry rest ih =>
      cases hb : overRows (mapList entry.1 (orderRows entry.2.order)) rows <;>
        simp [orderRelations, overRelations, hb, ih]

theorem windowRelations_eq (embedded : Entries Scope) (rows : List Value) :
    windowRelations embedded rows =
      overRelations (·.window = .whole) (fun s items => .ok (s.window.apply items)) embedded rows := by
  induction embedded generalizing rows with
  | nil => rfl
  | cons entry rest ih =>
      cases hb : overRows (mapList entry.1 fun items => .ok (entry.2.window.apply items)) rows <;>
        simp [windowRelations, overRelations, hb, ih]

section Relations

variable {passed : Scope → Bool} {change : Scope → List Value → Except Fault (List Value)}
  {embedded : Entries Scope} {rows out : List Value}

theorem length_overRelations (h : overRelations passed change embedded rows = .ok out) :
    out.length = rows.length := by
  induction embedded generalizing rows with
  | nil =>
      cases h
      rfl
  | cons entry rest ih =>
      rw [overRelations] at h
      split at h
      · exact ih h
      · split at h
        · cases h
        · rename_i between hb
          rw [overRows_eq_mapM] at hb
          exact (ih h).trans (Outcome.length_of_mapM hb)

theorem overRelations_apply (h : overRelations passed change embedded rows = .ok out)
    (w : Window) : overRelations passed change embedded (w.apply rows) = .ok (w.apply out) := by
  induction embedded generalizing rows with
  | nil =>
      cases h
      rfl
  | cons entry rest ih =>
      rw [overRelations] at h ⊢
      split at h
      · rename_i skipped
        rw [if_pos skipped]
        exact ih h
      · rename_i changed
        rw [if_neg changed]
        split at h
        · cases h
        · rename_i between hb
          rw [overRows_eq_mapM] at hb
          rw [overRows_eq_mapM, Window.apply_of_mapM hb w]
          exact ih h

end Relations

variable {q : Query} {rows : List Value}

theorem run_eq_ok_iff {result : QueryResult} :
    q.run rows = .ok result ↔ ∃ found sorted shown projected, q.matching rows = .ok found ∧
      q.ordered found = .ok sorted ∧
      windowRelations q.embedded (q.scope.window.apply sorted) = .ok shown ∧
      q.projection.rows shown = .ok projected ∧
      ⟨projected, found.length, q.scope.window.offset.getD 0⟩ = result := by
  simp only [run, bind, Outcome.bind_eq_ok_iff, stage_eq_ok_iff, pure, Except.pure,
    Except.ok.injEq, exists_and_left]

def chosenRows (q : Query) (rows : List Value) : Except Fault (List Value) :=
  match q.scope.predicate? with
  | none => .ok rows
  | some f => selectRows f.holds rows

theorem matching_eq_ok_iff {found : List Value} :
    q.matching rows = .ok found ↔ ∃ kept narrowed, q.chosenRows rows = .ok kept ∧
      filterRelations q.embedded kept = .ok narrowed ∧
      keepInner q.projection.innerRelations narrowed = .ok found := by
  cases hp : q.scope.predicate? <;>
    simp only [matching, chosenRows, hp, bind, Outcome.bind_eq_ok_iff, stage_eq_ok_iff,
      exists_and_left]

theorem ordered_eq_ok_iff {sorted : List Value} :
    q.ordered rows = .ok sorted ↔ ∃ own, orderRows q.scope.order rows = .ok own ∧
      orderRelations q.embedded own = .ok sorted := by
  simp only [ordered, bind, Outcome.bind_eq_ok_iff, stage_eq_ok_iff]

theorem run_filters {f : Filter} {filters : List Filter}
    (joined : Filter.conjoin filters = some f)
    (objects : ∀ row ∈ rows, row.isObject = true) {result : QueryResult} :
    (Query.ofScope ⟨filters, [], .whole⟩).run rows = .ok result ↔
      RowPredicate.DecidesAll f.holds rows ∧
        ⟨rows.filter (RowPredicate.chooses f.holds),
          (rows.filter (RowPredicate.chooses f.holds)).length, 0⟩ = result := by
  have shown : Projection.everything.rows (rows.filter (RowPredicate.chooses f.holds)) =
      .ok (rows.filter (RowPredicate.chooses f.holds)) :=
    Projection.everything_rows fun row hr => objects row (List.mem_filter.mp hr).1
  simp only [run_eq_ok_iff, matching_eq_ok_iff, ordered_eq_ok_iff, chosenRows, ofScope,
    Scope.predicate?, joined, filterRelations, orderRows, orderRelations, windowRelations]
  constructor
  · rintro ⟨found, sorted, last, projected, ⟨kept, narrowed, hs, hn, hf⟩, ⟨own, ho, hr⟩, hw, hp, rfl⟩
    obtain ⟨all, rfl⟩ := selectRows_eq_ok_iff.mp hs
    cases hn
    cases hf
    cases ho
    cases hr
    cases hw
    cases shown.symm.trans hp
    exact ⟨all, rfl⟩
  · rintro ⟨all, rfl⟩
    exact ⟨_, _, _, _, ⟨_, _, selectRows_eq_ok_iff.mpr ⟨all, rfl⟩, rfl, rfl⟩, ⟨_, rfl, rfl⟩, rfl,
      shown, rfl⟩

end Query

end TableServer
