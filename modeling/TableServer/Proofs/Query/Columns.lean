import TableServer.Proofs.Filter.Columns
import TableServer.Proofs.Query.Relations
import TableServer.Proofs.Select.Columns

/-! The columns of queries. They stand in the keys and values that a query is read from, and a run
over rows that are objects fails only on a path among them. -/
namespace TableServer

variable {sources : List (List Char)}

/-! ## Reading -/

namespace OrderTerm

def SpeltIn (sources : List (List Char)) (t : OrderTerm) : Prop :=
  Spelt sources t.column.toList

theorem read_yields {raw : List Char} (spelt : Spelt sources raw) :
    Yields (SpeltIn sources) (Failure.Due sources) (read raw) := by
  unfold read
  split
  · rename_i c column modifiers split
    have stands := (Text.splitOn_standIn '.' (Text.trim raw)).isInfix (split ▸ List.mem_cons_self)
    refine .foldlM ?_ fun t modifier _ ht => ?_
    · simpa [SpeltIn] using spelt.part (stands.trans (Text.trim_infix raw))
    · unfold modify
      split_ifs <;> first | exact ht | trivial
  · trivial

theorem readList_yields {text : List Char} (spelt : Spelt sources text) :
    Yields (fun terms => ∀ t ∈ terms, t.SpeltIn sources) (Failure.Due sources)
      (readList text) :=
  .bind (Grammar.splitTopLevel_yields ',' text) fun _ inside =>
    .mapM fun raw hr => read_yields (spelt.part (inside raw hr))

end OrderTerm

def Clause.SpeltIn (sources : List (List Char)) : Clause → Prop
  | .filter f => f.SpeltIn sources
  | .order terms => ∀ t ∈ terms, t.SpeltIn sources
  | _ => True

structure Scope.SpeltIn (sources : List (List Char)) (s : Scope) : Prop where
  filters : ∀ f ∈ s.filters, f.SpeltIn sources
  order : ∀ t ∈ s.order, t.SpeltIn sources

namespace Scope

theorem speltIn_empty : empty.SpeltIn sources :=
  ⟨by simp [empty], by simp [empty]⟩

theorem speltIn_add {s : Scope} (hs : s.SpeltIn sources) {c : Clause} (hc : c.SpeltIn sources) :
    (s.add c).SpeltIn sources := by
  cases c with
  | filter f =>
      refine ⟨fun g hg => ?_, hs.order⟩
      rcases List.mem_append.mp hg with hg | hg
      · exact hs.filters g hg
      · exact List.mem_singleton.mp hg ▸ hc
  | order terms =>
      refine ⟨hs.filters, fun t ht => ?_⟩
      rcases List.mem_append.mp ht with ht | ht
      · exact hs.order t ht
      · exact hc t ht
  | _ => exact ⟨hs.filters, hs.order⟩

theorem speltIn_predicate {s : Scope} (hs : s.SpeltIn sources) {f : Filter}
    (h : s.predicate? = some f) : f.SpeltIn sources := by
  obtain ⟨filters, order, window⟩ := s
  have joined : Filter.conjoin filters = some f := h
  match filters, joined, hs with
  | [_], rfl, hs => exact hs.filters _ (by simp)
  | g :: h :: rest, rfl, hs => exact Filter.speltIn_join .all hs.filters

end Scope

theorem readModifier?_yields {key modifier : String} {value : List Char}
    (told : Spelt sources value) {clause : Outcome Clause}
    (h : readModifier? key modifier value = some clause) :
    Yields (Clause.SpeltIn sources) (Failure.Due sources) clause := by
  unfold readModifier? at h
  split at h
  all_goals cases h
  · exact (OrderTerm.readList_yields told).map fun _ ht => ht
  · exact (Window.readCount_yields key value).map fun _ _ => trivial
  · exact (Window.readCount_yields key value).map fun _ _ => trivial
  · exact (Window.readRange_yields told key).map fun _ _ => trivial

def Parameter.SpeltIn (sources : List (List Char)) : Parameter → Prop
  | .silent => True
  | .top c => c.SpeltIn sources
  | .embedded _ c => c.SpeltIn sources

theorem Parameter.read_yields (p : Projection) {pair : String × String}
    (named : Spelt sources pair.1.toList) (told : Spelt sources pair.2.toList) :
    Yields (Parameter.SpeltIn sources) (Failure.Due sources) (read p pair) := by
  unfold read
  dsimp only
  split
  · split
    · rename_i modifier
      exact (readModifier?_yields told modifier).map fun _ hc => hc
    · trivial
  · split
    · exact (Filter.readLogic_yields _ told).map fun _ hf => hf
    · split
      · exact (Filter.read_yields named told).map fun _ hf => hf
      · rename_i name rest cut
        split
        · rename_i modifier
          exact (readModifier?_yields told modifier).map fun _ hc => hc
        · exact (readFilter_yields (named.part (Text.infix_of_cut? cut).2) told).map fun _ hf => hf

namespace Query

structure SpeltIn (sources : List (List Char)) (q : Query) : Prop where
  scope : q.scope.SpeltIn sources
  embedded : ∀ e ∈ q.embedded, e.2.SpeltIn sources
  projection : q.projection.SpeltIn sources

theorem speltIn_add {q : Query} (hq : q.SpeltIn sources) {x : Parameter}
    (hx : x.SpeltIn sources) : (q.add x).SpeltIn sources := by
  cases x with
  | silent => exact hq
  | top c => exact ⟨Scope.speltIn_add hq.scope hx, hq.embedded, hq.projection⟩
  | embedded relation c =>
      have before : (q.scopeOf relation).SpeltIn sources := by
        unfold scopeOf
        cases hf : Entries.find? relation q.embedded with
        | none => exact Scope.speltIn_empty
        | some s => exact hq.embedded _ (Entries.mem_of_find? hf)
      refine ⟨hq.scope, fun e he => ?_, hq.projection⟩
      rcases Entries.mem_put he with rfl | he
      · exact Scope.speltIn_add before hx
      · exact hq.embedded e he

theorem speltIn_ofParameters {p : Projection} (hp : p.SpeltIn sources) {xs : List Parameter}
    (hx : ∀ x ∈ xs, x.SpeltIn sources) : (ofParameters p xs).SpeltIn sources := by
  suffices folded : ∀ q : Query, q.SpeltIn sources → (xs.foldl add q).SpeltIn sources from
    folded _ ⟨Scope.speltIn_empty, by simp, hp⟩
  induction xs with
  | nil => exact fun q hq => hq
  | cons x rest ih =>
      intro q hq
      exact ih (fun y hy => hx y (by simp [hy])) _ (speltIn_add hq (hx x (by simp)))

theorem withHeader_yields {q : Query} (hq : q.SpeltIn sources) {header : Option String}
    (spelt : ∀ text, header = some text → Spelt sources text.toList) :
    Yields (SpeltIn sources) (Failure.Due sources) (withHeader header q) := by
  unfold withHeader
  split
  · exact (Window.readHeader_yields spelt).map fun _ _ =>
      ⟨⟨hq.scope.filters, hq.scope.order⟩, hq.embedded, hq.projection⟩
  · exact hq

theorem read_yields {pairs : List (String × String)} {header : Option String}
    (spelt : ∀ pair ∈ pairs, Spelt sources pair.1.toList ∧ Spelt sources pair.2.toList)
    (ranged : ∀ text, header = some text → Spelt sources text.toList) :
    Yields (SpeltIn sources) (Failure.Due sources) (read pairs header) := by
  have selected : Yields (Projection.SpeltIn sources) (Failure.Due sources)
      (readProjection pairs) := by
    refine .foldlM (by simp [Projection.SpeltIn, Projection.everything, Projection.columnNames,
      Projection.columnNamesOfAll]) fun p pair hm hp => ?_
    split
    · exact Projection.read_yields (spelt pair hm).2
    · exact hp
  refine .bind selected fun p hp => ?_
  refine .bind (.mapM fun pair hm =>
    Parameter.read_yields p (spelt pair hm).1 (spelt pair hm).2) fun xs hx => ?_
  exact withHeader_yields (speltIn_ofParameters hp hx) ranged

end Query

/-! ## Running -/

def AllObjects (rows : List Value) : Prop :=
  ∀ row ∈ rows, row.isObject = true

theorem selectRows_yields {p : RowPredicate} {rows : List Value}
    (each : ∀ row ∈ rows, FailsOnly (Fault.Due sources) (p row)) :
    Yields (· ⊆ rows) (Fault.Due sources) (selectRows p rows) := by
  have fails : FailsOnly (Fault.Due sources) (selectRows p rows) := by
    induction rows with
    | nil => trivial
    | cons row rest ih =>
        have head := each row (by simp)
        have tail := ih fun other ho => each other (by simp [ho])
        unfold selectRows
        exact head.elim (fun kept _ _ => tail.map fun _ _ => trivial) fun _ due => due
  refine fails.imp fun kept h _ => ?_
  obtain ⟨-, rfl⟩ := selectRows_eq_ok_iff.mp h
  exact List.filter_sublist.subset

theorem OrderTerm.sortRows_yields {t : OrderTerm} (spelt : t.SpeltIn sources) (rows : List Value) :
    FailsOnly (Fault.Due sources) (t.sortRows rows) := by
  have key (row : Value) : FailsOnly (Fault.Due sources) (t.key? row) := by
    cases row with
    | object members => exact (resolveColumn_yields spelt members).map fun _ _ => trivial
    | _ => trivial
  have keyed : FailsOnly (Fault.Due sources) (t.keyed rows) := by
    induction rows with
    | nil => trivial
    | cons row rest ih =>
        have head := key row
        unfold OrderTerm.keyed
        exact head.elim (fun k _ _ => ih.map fun _ _ => trivial) fun _ due => due
  exact keyed.map fun _ _ => trivial

theorem orderRows_yields {terms : List OrderTerm} (spelt : ∀ t ∈ terms, t.SpeltIn sources)
    (rows : List Value) : Yields (· ⊆ rows) (Fault.Due sources) (orderRows terms rows) := by
  have fails : FailsOnly (Fault.Due sources) (orderRows terms rows) := by
    induction terms with
    | nil => trivial
    | cons t rest ih =>
        have tail := ih fun u hu => spelt u (by simp [hu])
        unfold orderRows
        exact tail.elim (fun sorted _ _ => t.sortRows_yields (spelt t (by simp)) sorted)
          fun _ due => due
  exact fails.imp fun sorted h _ => (orderRows_perm h).subset

namespace Query

theorem stage_yields {α : Type} {good : α → Prop} {x : Except Fault α}
    (h : Yields good (Fault.Due sources) x) : Yields good (Failure.Due sources) (stage x) := by
  cases x <;> exact h

theorem filterRelated_yields {f : Filter} (spelt : f.SpeltIn sources) (relation : String)
    (related : Value) :
    FailsOnly (Failure.Due sources) (filterRelated f relation related) := by
  cases related with
  | object members =>
      have decided := f.holds_yields spelt (.object members)
      unfold filterRelated
      dsimp only
      exact decided.elim (fun _ _ _ => trivial) fun _ due => due
  | array items =>
      have selected := selectRows_yields fun item (_ : item ∈ items) => f.holds_yields spelt item
      unfold filterRelated
      dsimp only
      exact selected.elim (fun _ _ _ => trivial) fun _ due => due
  | _ => trivial

theorem overRows_yields {f : Value → Outcome Value} {rows : List Value}
    (objects : AllObjects rows) (each : ∀ members,
      Yields (·.isObject = true) (Failure.Due sources) (f (.object members))) :
    Yields AllObjects (Failure.Due sources) (overRows f rows) := by
  rw [overRows_eq_mapM]
  refine .mapM fun row hr => ?_
  have object := objects row hr
  cases row with
  | object members => exact each members
  | _ => cases object

theorem filterEmbedded_yields {f : Filter} (spelt : f.SpeltIn sources) (relation : String)
    (members : Members) : Yields (·.isObject = true) (Failure.Due sources)
      (filterEmbedded relation f (.object members)) := by
  unfold filterEmbedded
  dsimp only
  split
  · trivial
  · exact (filterRelated_yields spelt relation _).map fun _ _ => rfl

theorem filterRelations_yields {embedded : Entries Scope}
    (spelt : ∀ e ∈ embedded, e.2.SpeltIn sources) {rows : List Value} (objects : AllObjects rows) :
    Yields AllObjects (Failure.Due sources) (filterRelations embedded rows) := by
  induction embedded generalizing rows with
  | nil => exact objects
  | cons e rest ih =>
      have tail {rows : List Value} (objects : AllObjects rows) :
          Yields AllObjects (Failure.Due sources) (filterRelations rest rows) :=
        ih (fun d hd => spelt d (by simp [hd])) objects
      unfold filterRelations
      split
      · exact tail objects
      · rename_i f told
        have own := Scope.speltIn_predicate (spelt e (by simp)) told
        have filtered := overRows_yields objects (filterEmbedded_yields own e.1)
        exact filtered.elim (fun _ _ hb => tail hb) fun _ due => due

theorem keepInner_yields {relations : List String} {rows : List Value} (objects : AllObjects rows) :
    Yields (· ⊆ rows) (Fault.Due sources) (keepInner relations rows) := by
  have fails : FailsOnly (Fault.Due sources) (keepInner relations rows) := by
    induction relations generalizing rows with
    | nil => trivial
    | cons relation rest ih =>
        have decided : Yields (· ⊆ rows) (Fault.Due sources)
            (selectRows (hasRelated relation) rows) := by
          refine selectRows_yields fun row hr => ?_
          have object := objects row hr
          cases row with
          | object members => trivial
          | _ => cases object
        unfold keepInner
        exact decided.elim (fun _ _ inside => ih fun row hr => objects row (inside hr))
          fun _ due => due
  exact fails.imp fun _ h _ => keepInner_subset h

theorem overRelations_yields {passed : Scope → Bool}
    {change : Scope → List Value → Except Fault (List Value)} {embedded : Entries Scope}
    (each : ∀ e ∈ embedded, ∀ items, FailsOnly (Fault.Due sources) (change e.2 items))
    {rows : List Value} (objects : AllObjects rows) :
    Yields AllObjects (Failure.Due sources) (overRelations passed change embedded rows) := by
  induction embedded generalizing rows with
  | nil => exact objects
  | cons e rest ih =>
      have tail {rows : List Value} (objects : AllObjects rows) :
          Yields AllObjects (Failure.Due sources) (overRelations passed change rest rows) :=
        ih (fun d hd => each d (by simp [hd])) objects
      have own (members : Members) : Yields (·.isObject = true) (Failure.Due sources)
          (mapList e.1 (change e.2) (.object members)) := by
        unfold mapList
        dsimp only
        split
        · rename_i items _
          have changed := each e (by simp) items
          exact changed.elim (fun _ _ _ => rfl) fun _ due => due
        · rfl
      unfold overRelations
      split
      · exact tail objects
      · have changed := overRows_yields objects own
        exact changed.elim (fun _ _ hb => tail hb) fun _ due => due

theorem chosenRows_yields {q : Query} (spelt : q.scope.SpeltIn sources) (rows : List Value) :
    Yields (· ⊆ rows) (Fault.Due sources) (q.chosenRows rows) := by
  unfold chosenRows
  split
  · exact List.Subset.refl rows
  · rename_i f told
    have own := Scope.speltIn_predicate spelt told
    exact selectRows_yields fun row _ => f.holds_yields own row

theorem matching_yields {q : Query} (spelt : q.SpeltIn sources) {rows : List Value}
    (objects : AllObjects rows) : Yields AllObjects (Failure.Due sources) (q.matching rows) := by
  refine .bind (stage_yields (chosenRows_yields spelt.scope rows)) fun kept inside => ?_
  refine .bind (filterRelations_yields spelt.embedded fun row hr => objects row (inside hr))
    fun narrowed hn => ?_
  exact (stage_yields (keepInner_yields hn)).imp fun found _ inside row hr => hn row (inside hr)

theorem run_yields {q : Query} (spelt : q.SpeltIn sources) {rows : List Value}
    (objects : AllObjects rows) :
    FailsOnly (Failure.Due sources) (q.run rows) := by
  have ordered {found : List Value} (hf : AllObjects found) :
      Yields AllObjects (Failure.Due sources) (q.ordered found) := by
    refine .bind (stage_yields (orderRows_yields spelt.scope.order found)) fun sorted inside => ?_
    rw [orderRelations_eq]
    exact overRelations_yields (fun e he items =>
      (orderRows_yields (spelt.embedded e he).order items).imp fun _ _ _ => trivial)
      fun row hr => hf row (inside hr)
  have windowed {sorted : List Value} (hs : AllObjects sorted) :
      Yields AllObjects (Failure.Due sources)
        (windowRelations q.embedded (q.scope.window.apply sorted)) := by
    rw [windowRelations_eq]
    refine overRelations_yields ?_ fun row hr => hs row (q.scope.window.apply_subset sorted hr)
    exact fun _ _ _ => trivial
  refine .bind (matching_yields spelt objects) fun found hf => ?_
  refine .bind (ordered hf) fun sorted hs => ?_
  refine .bind (windowed hs) fun shown hw => ?_
  exact .bind (stage_yields (Projection.rows_yields spelt.projection hw)) fun _ _ => trivial

end Query

end TableServer
