import TableServer.Proofs.Query.Totals

/-! Nested queries. Filters, orders and windows of referenced tables are three passes over all rows,
with the order and the window of the rows between them. Together they make of each row what a
query of its own makes of every list that it refers to. -/
namespace TableServer

/-- Nothing, one object, or a list of objects. -/
def Value.isRelated : Value → Bool
  | null | object _ => true
  | array items => items.all isObject
  | _ => false

namespace OrderTerm

def base (t : OrderTerm) : String :=
  String.ofList (Path.read t.column.toList).base

theorem key?_congr {t : OrderTerm} {members others : Members}
    (same : Entries.find? ↑t.base members = Entries.find? ↑t.base others) :
    t.key? (.object members) = t.key? (.object others) := by
  rw [base, Codes.ofString_ofList] at same
  simp only [key?, resolveColumn, Path.resolve, same]

end OrderTerm

namespace Query

namespace Alteration

/-- A row, if it is an object, with what it is to hold of all relations. -/
def overRow (a : Alteration) (embedded : Entries Scope) : Value → Outcome Value
  | .object members => (a.row embedded members).map .object
  | other => .ok other

theorem isObject_overRow {a : Alteration} {embedded : Entries Scope} {row out : Value}
    (object : row.isObject = true) (h : a.overRow embedded row = .ok out) :
    out.isObject = true := by
  cases row with
  | object members =>
      obtain ⟨left, -, rfl⟩ := Outcome.map_eq_ok_iff.mp h
      rfl
  | _ => cases object

theorem isObject_of_mapM {a : Alteration} {embedded : Entries Scope} {rows out : List Value}
    (objects : ∀ row ∈ rows, row.isObject = true) (h : rows.mapM (a.overRow embedded) = .ok out) :
    ∀ row ∈ out, row.isObject = true := by
  intro row hr
  obtain ⟨before, hb, altered⟩ := Outcome.exists_of_mem_mapM h hr
  exact isObject_overRow (objects before hb) altered

theorem rows_objects_iff {a : Alteration} {embedded : Entries Scope} {ms : List Members}
    {out : List Value} : (a.rows embedded ms).map (List.map .object) = .ok out ↔
      (ms.map .object).mapM (a.overRow embedded) = .ok out := by
  have each : overRows (a.overRow embedded) (ms.map .object) =
      (ms.mapM (a.row embedded)).map (List.map .object) := overRows_objects fun _ _ => rfl
  rw [← overRows_eq_mapM, each, Outcome.map_eq_ok_iff, Outcome.map_eq_ok_iff]
  simp only [rows_eq_ok_iff]

end Alteration

def ordering : Alteration :=
  changing (·.order.isEmpty) fun s => orderRows s.order

def windowing : Alteration :=
  changing (·.window = .whole) fun s items => .ok (s.window.apply items)

section Passes

variable {embedded : Entries Scope} {rows out : List Value}
  (objects : ∀ row ∈ rows, row.isObject = true)

include objects

theorem filterRelations_iff :
    filterRelations embedded rows = .ok out ↔ rows.mapM (filtering.overRow embedded) = .ok out := by
  obtain ⟨ms, rfl⟩ := eq_map_object objects
  rw [filterRelations_objects, Alteration.rows_objects_iff]

theorem orderRelations_iff :
    orderRelations embedded rows = .ok out ↔ rows.mapM (ordering.overRow embedded) = .ok out := by
  obtain ⟨ms, rfl⟩ := eq_map_object objects
  rw [orderRelations_eq, overRelations_objects, ← ordering, Alteration.rows_objects_iff]

theorem windowRelations_iff :
    windowRelations embedded rows = .ok out ↔
      rows.mapM (windowing.overRow embedded) = .ok out := by
  obtain ⟨ms, rfl⟩ := eq_map_object objects
  rw [windowRelations_eq, overRelations_objects, ← windowing, Alteration.rows_objects_iff]

end Passes

/-- What a query of its own makes of what a row holds of a relation. A list becomes the rows of the
query; an object that does not satisfy the filters becomes null. -/
def nested (s : Scope) : Value → Outcome Value
  | .array items => ((ofScope s).run items).map fun result => .array result.rows
  | .object members => .ok (if s.satisfiedBy (.object members) then .object members else .null)
  | other => .ok other

def nesting : Alteration where
  alter _ s held :=
    match held with
    | none => .ok none
    | some v => (nested s v).map some
  keeps := by
    intro relation s held out h
    split at h
    · cases h
      rfl
    · obtain ⟨v, -, rfl⟩ := Outcome.map_eq_ok_iff.mp h
      rfl

/-- A row in which every relation that parameters address is queried by itself. -/
def nestedRow (embedded : Entries Scope) : Value → Outcome Value :=
  nesting.overRow embedded

def passes : Alteration :=
  (filtering.andThen ordering).andThen windowing

theorem passes_eq_ok_iff {relation : String} {s : Scope} {held out : Option Value} :
    passes.alter relation s held = .ok out ↔ ∃ left sorted,
      filtering.alter relation s held = .ok left ∧ ordering.alter relation s left = .ok sorted ∧
        windowing.alter relation s sorted = .ok out := by
  simp only [passes, Alteration.andThen, Outcome.bind_eq_ok_iff]
  constructor
  · rintro ⟨sorted, ⟨left, hl, hs⟩, hw⟩
    exact ⟨left, sorted, hl, hs, hw⟩
  · rintro ⟨left, sorted, hl, hs, hw⟩
    exact ⟨sorted, ⟨left, hl, hs⟩, hw⟩

section Changing

variable {passed : Scope → Bool} {change : Scope → List Value → Except Fault (List Value)}
  {relation : String} {s : Scope}

theorem changing_of_no_list {held : Option Value} (other : ∀ items, held ≠ some (.array items)) :
    (changing passed change).alter relation s held = .ok held := by
  unfold changing
  dsimp only
  split
  · rfl
  · split
    · rename_i items
      exact absurd rfl (other items)
    · rfl

theorem change_of_changing (idle : passed s = true → ∀ items, change s items = .ok items)
    {items : List Value} {out : Option Value}
    (h : (changing passed change).alter relation s (some (.array items)) = .ok out) :
    ∃ changed, change s items = .ok changed ∧ out = some (.array changed) := by
  unfold changing at h
  dsimp only at h
  split at h
  · rename_i skipped
    cases h
    exact ⟨items, idle skipped items, rfl⟩
  · split at h
    · cases h
    · rename_i changed hc
      cases h
      exact ⟨changed, hc, rfl⟩

end Changing

theorem order_of_ordering {relation : String} {s : Scope} {items : List Value}
    {out : Option Value} (h : ordering.alter relation s (some (.array items)) = .ok out) :
    ∃ sorted, orderRows s.order items = .ok sorted ∧ out = some (.array sorted) := by
  refine change_of_changing (fun skipped items => ?_) h
  rw [List.isEmpty_iff.mp skipped, orderRows]

theorem window_of_windowing {relation : String} {s : Scope} {items : List Value}
    {out : Option Value} (h : windowing.alter relation s (some (.array items)) = .ok out) :
    out = some (.array (s.window.apply items)) := by
  have idle (skipped : decide (s.window = .whole) = true) (items : List Value) :
      (.ok (s.window.apply items) : Except Fault (List Value)) = .ok items := by
    rw [of_decide_eq_true skipped]
    rfl
  obtain ⟨page, hp, rfl⟩ := change_of_changing idle h
  cases hp
  rfl

theorem run_ofScope {s : Scope} {items kept sorted : List Value}
    (objects : ∀ item ∈ items, item.isObject = true)
    (chosen : (ofScope s).chosenRows items = .ok kept) (sorts : orderRows s.order kept = .ok sorted) :
    (ofScope s).run items =
      .ok ⟨s.window.apply sorted, kept.length, s.window.offset.getD 0⟩ := by
  have within : ∀ item ∈ s.window.apply sorted, item.isObject = true := by
    intro item hi
    have there : item ∈ kept := (orderRows_perm sorts).mem_iff.mp (Window.apply_subset _ _ hi)
    rw [chosenRows_eq_filter chosen] at there
    exact objects item (List.mem_filter.mp there).1
  exact run_eq_ok_iff.mpr ⟨kept, sorted, s.window.apply sorted, _,
    matching_eq_ok_iff.mpr ⟨kept, kept, chosen, rfl, rfl⟩, ordered_eq_ok_iff.mpr ⟨sorted, sorts, rfl⟩,
    rfl, Projection.everything_rows within, rfl⟩

theorem nesting_of_passes {relation : String} {s : Scope} {held out : Option Value}
    (related : ∀ v, held = some v → v.isRelated = true)
    (h : passes.alter relation s held = .ok out) : nesting.alter relation s held = .ok out := by
  obtain ⟨left, sorted, hl, hs, hw⟩ := passes_eq_ok_iff.mp h
  have settle (other : ∀ items, left ≠ some (.array items)) : left = out := by
    have ordered : ordering.alter relation s left = .ok left := changing_of_no_list other
    cases ordered.symm.trans hs
    have cut : windowing.alter relation s left = .ok left := changing_of_no_list other
    exact Except.ok.inj (cut.symm.trans hw)
  cases held with
  | none =>
      have absent : left = none := by simpa using filtering.keeps hl
      cases settle fun items => by simp [absent]
      rw [absent]
      rfl
  | some v =>
      have told := related v rfl
      cases v with
      | null =>
          obtain rfl := filtering_null hl
          cases settle fun items same => by simp at same
          rfl
      | object members =>
          obtain rfl := filtering_object hl
          cases settle fun items same => by split at same <;> simp at same
          rfl
      | array items =>
          have objects : ∀ item ∈ items, item.isObject = true := List.all_eq_true.mp told
          obtain ⟨kept, chosen, rfl⟩ := chosen_of_filtering hl
          obtain ⟨own, sorts, rfl⟩ := order_of_ordering hs
          obtain rfl := window_of_windowing hw
          simp only [nesting, nested, run_ofScope objects chosen sorts, Except.map]
      | _ => cases told

/-- Three passes over a row, one after the other, make of it what queries of their own make of all
that it refers to. -/
theorem nestedRow_of_passes {embedded : Entries Scope} (unique : (Entries.names embedded).Nodup)
    {members : Members}
    (related : ∀ relation ∈ Entries.names embedded, ∀ v,
      Entries.find? ↑relation members = some v → v.isRelated = true) {out : Value}
    (h : (((filtering.overRow embedded (.object members)).bind (ordering.overRow embedded)).bind
      (windowing.overRow embedded)) = .ok out) : nestedRow embedded (.object members) = .ok out := by
  obtain ⟨second, hs, hw⟩ := Outcome.bind_eq_ok_iff.mp h
  obtain ⟨first, hf, ho⟩ := Outcome.bind_eq_ok_iff.mp hs
  obtain ⟨left, filtered, rfl⟩ := Outcome.map_eq_ok_iff.mp hf
  obtain ⟨sorted, ordered, rfl⟩ := Outcome.map_eq_ok_iff.mp ho
  obtain ⟨page, cut, rfl⟩ := Outcome.map_eq_ok_iff.mp hw
  have passed : passes.row embedded members = .ok page :=
    Alteration.row_andThen unique (Alteration.row_andThen unique filtered ordered) cut
  have queried : nesting.row embedded members = .ok page := by
    refine Alteration.row_congr unique (fun e he held told => ?_) passed
    exact nesting_of_passes (related e.1 (List.mem_map_of_mem he)) told
  exact Outcome.map_eq_ok_iff.mpr ⟨page, queried, rfl⟩

theorem key?_filtering {t : OrderTerm} {embedded : Entries Scope}
    (apart : t.base ∉ Entries.names embedded) {row out : Value}
    (h : filtering.overRow embedded row = .ok out) : t.key? out = t.key? row := by
  cases row with
  | object members =>
      obtain ⟨left, filtered, rfl⟩ := Outcome.map_eq_ok_iff.mp h
      exact OrderTerm.key?_congr (Alteration.find?_row apart filtered)
  | _ =>
      cases h
      rfl

variable {pairs : List (String × String)} {header : Option String} {q : Query}
  {rows : List Value} {result : QueryResult}

/-- A run that keeps all columns and joins nothing: three passes row by row, with the order of the
rows and their window between them. -/
theorem passes_of_run (whole : q.projection = .everything)
    (objects : ∀ row ∈ rows, row.isObject = true) (ran : q.run rows = .ok result) :
    ∃ narrowed own sorted,
      (rows.filter q.scope.satisfiedBy).mapM (filtering.overRow q.embedded) = .ok narrowed ∧
      orderRows q.scope.order narrowed = .ok own ∧
      own.mapM (ordering.overRow q.embedded) = .ok sorted ∧
      (q.scope.window.apply sorted).mapM (windowing.overRow q.embedded) = .ok result.rows := by
  obtain ⟨found, sorted, shown, projected, hm, ho, hw, hp, rfl⟩ := run_eq_ok_iff.mp ran
  obtain ⟨kept, narrowed, chosen, hn, hk⟩ := matching_eq_ok_iff.mp hm
  obtain ⟨own, sorts, hr⟩ := ordered_eq_ok_iff.mp ho
  rw [whole] at hk hp
  cases hk
  obtain rfl := chosenRows_eq_filter chosen
  have kept_objects : ∀ row ∈ rows.filter q.scope.satisfiedBy, row.isObject = true :=
    fun row hr => objects row (List.mem_filter.mp hr).1
  rw [filterRelations_iff kept_objects] at hn
  have narrowed_objects := Alteration.isObject_of_mapM kept_objects hn
  have own_objects : ∀ row ∈ own, row.isObject = true :=
    fun row hr => narrowed_objects row ((orderRows_perm sorts).mem_iff.mp hr)
  rw [orderRelations_iff own_objects] at hr
  have page_objects : ∀ row ∈ q.scope.window.apply sorted, row.isObject = true :=
    fun row hm => Alteration.isObject_of_mapM own_objects hr row (Window.apply_subset _ _ hm)
  rw [windowRelations_iff page_objects] at hw
  have shown_objects := Alteration.isObject_of_mapM page_objects hw
  cases (Projection.everything_rows shown_objects).symm.trans hp
  exact ⟨_, own, sorted, hn, sorts, hr, hw⟩

/-- Filters of relations leave what the terms read, so they may follow the order of the rows. -/
theorem order_before_filters {terms : List OrderTerm} {embedded : Entries Scope}
    (apart : ∀ t ∈ terms, t.base ∉ Entries.names embedded) {kept narrowed own : List Value}
    (narrows : kept.mapM (filtering.overRow embedded) = .ok narrowed)
    (sorts : orderRows terms narrowed = .ok own) :
    ∃ before, orderRows terms kept = .ok before ∧
      before.mapM (filtering.overRow embedded) = .ok own := by
  obtain ⟨narrow, rfl, filtered⟩ := Outcome.exists_map_of_mapM narrows
  have keys : ∀ t ∈ terms, ∀ row ∈ kept, t.key? (narrow row) = t.key? row :=
    fun t ht row hr => key?_filtering (apart t ht) (filtered row hr)
  rw [orderRows_map keys] at sorts
  obtain ⟨before, hb, rfl⟩ := Outcome.map_eq_ok_iff.mp sorts
  exact ⟨before, hb, Outcome.mapM_eq_ok_map fun row hr =>
    filtered row ((orderRows_perm hb).mem_iff.mp hr)⟩

/-- A query without a select list gives a window of the matching rows in order, each of which holds,
of every relation that the parameters address, what a query of its own makes of it. -/
theorem rows_of_run (objects : ∀ row ∈ rows, row.isObject = true)
    (unselected : ∀ pair ∈ pairs, pair.1 ≠ "select") (parsed : read pairs header = .ok q)
    (related : ∀ row ∈ rows, ∀ relation ∈ Entries.names q.embedded, ∀ v,
      row.members?.bind (Entries.find? ↑relation) = some v → v.isRelated = true)
    (apart : ∀ t ∈ q.scope.order, t.base ∉ Entries.names q.embedded)
    (ran : q.run rows = .ok result) :
    ∃ sorted, orderRows q.scope.order (rows.filter q.scope.satisfiedBy) = .ok sorted ∧
      overRows (nestedRow q.embedded) (q.scope.window.apply sorted) = .ok result.rows := by
  have whole : q.projection = .everything :=
    Except.ok.inj ((filteredBy_of_read parsed).projection.symm.trans
      (readProjection_of_no_select unselected))
  have unique := nodup_names_of_read parsed
  obtain ⟨narrowed, own, sorted, narrows, sorts, lists, cuts⟩ := passes_of_run whole objects ran
  obtain ⟨before, sorts', filters⟩ := order_before_filters apart narrows sorts
  -- The window of the rows goes past what is done row by row.
  have two := Window.apply_of_mapM (Outcome.mapM_mapM_eq_ok_iff.mp ⟨own, filters, lists⟩)
    q.scope.window
  have three := Outcome.mapM_mapM_eq_ok_iff.mp ⟨_, two, cuts⟩
  refine ⟨before, sorts', ?_⟩
  rw [overRows_eq_mapM]
  refine Outcome.mapM_of_mapM (fun row hr out passed => ?_) three
  have there := (orderRows_perm sorts').mem_iff.mp (Window.apply_subset _ _ hr)
  have given := (List.mem_filter.mp there).1
  cases row with
  | object members => exact nestedRow_of_passes unique (related _ given) passed
  | _ => cases objects _ given

end Query

theorem Sorting.sort_pair {α : Type} {lt : α → α → Bool} {comparable : α → Bool} {a b : α}
    (fine : [a, b].all comparable = true) :
    sort comparable lt [a, b] = if lt b a then [b, a] else [a, b] := by
  rw [sort, if_pos fine]
  cases h : lt b a <;> simp [List.mergeSort, List.MergeSort.Internal.splitInTwo, h]

theorem OrderTerm.sortRows_pair {t : OrderTerm} {a b : Value} {k l : Option SortKey}
    (ha : t.key? a = .ok k) (hb : t.key? b = .ok l) (fine : comparable k = true)
    (fine' : comparable l = true) :
    t.sortRows [a, b] =
      .ok (if bif t.ascending then t.lt l k else t.lt k l then [b, a] else [a, b]) := by
  have pairs : t.keyed [a, b] = .ok [(k, a), (l, b)] := by simp only [keyed, ha, hb, Except.map]
  rw [sortRows, pairs]
  refine congrArg Except.ok ?_
  cases t.ascending with
  | true =>
      simp only [if_true]
      rw [Sorting.sort_pair (by simp [fine, fine'])]
      cases t.lt l k <;> rfl
  | false =>
      have turned : [(k, a), (l, b)].reverse = [(l, b), (k, a)] := rfl
      simp only [Bool.false_eq_true, if_false]
      rw [Sorting.sortDown, turned, Sorting.sort_pair (by simp [fine, fine'])]
      cases t.lt k l <;> rfl

namespace Query

theorem rows_of_first_authors :
    let pairs := [("order", "id.desc"), ("authors.limit", "1"), ("editor.name", "eq.Di"),
      ("limit", "2"), ("authors.order", "name")]
    let first (id : Int) : Value := .object
      [("id", .ofInt id), ("authors", .array [editedRows.named "Ann"]), ("editor", .null)]
    ∃ q, read pairs none = .ok q ∧ q.run editedRows = .ok ⟨[first 2, first 1], 2, 0⟩ ∧
      ∃ sorted, orderRows q.scope.order (editedRows.filter q.scope.satisfiedBy) = .ok sorted ∧
        overRows (nestedRow q.embedded) (q.scope.window.apply sorted) = .ok [first 2, first 1] := by
  intro pairs first
  let di : Filter := .condition ⟨"name", "Di", .equals "Di"⟩
  let q : Query := ⟨⟨[], [⟨"id", false, none⟩], ⟨none, some 2⟩⟩,
    [("authors", ⟨[], [⟨"name", true, none⟩], ⟨none, some 1⟩⟩), ("editor", ⟨[di], [], .whole⟩)],
    .everything⟩
  let members (id : Int) (authors : List String) : Members :=
    [("id", .ofInt id), ("authors", .array (authors.map editedRows.named)), ("editor", .null)]
  let row (id : Int) (authors : List String) : Value := .object (members id authors)
  have parsed : read pairs none = .ok q := rfl
  have objects : ∀ row ∈ editedRows, row.isObject = true := by
    intro row hr
    rcases List.mem_pair.mp hr with rfl | rfl <;> rfl
  have related : ∀ row ∈ editedRows, ∀ relation ∈ Entries.names q.embedded, ∀ v,
      row.members?.bind (Entries.find? ↑relation) = some v → v.isRelated = true := by
    intro row hr relation hn v hv
    rcases List.mem_pair.mp hr with rfl | rfl <;> rcases List.mem_pair.mp hn with rfl | rfl <;>
      · simp only [Value.members?, Option.bind_some, Entries.find?, Codes.ofString_inj] at hv
        cases hv
        rfl
  have sorts : orderRows q.scope.order [row 1 ["Bo", "Ann"], row 2 ["Di", "Ann"]] =
      .ok [row 2 ["Di", "Ann"], row 1 ["Bo", "Ann"]] :=
    OrderTerm.sortRows_pair (k := some (.ofValue (.ofInt 1))) (l := some (.ofValue (.ofInt 2)))
      rfl rfl rfl rfl
  have listed (id : Int) {name : String}
      (named : OrderTerm.key? ⟨"name", true, none⟩ (editedRows.named name) =
        .ok (some (.string name)))
      (later : Codes.ofString "Ann" < name) :
      mapList "authors" (orderRows [⟨"name", true, none⟩]) (row id [name, "Ann"]) =
        .ok (row id ["Ann", name]) := by
    have sorts : orderRows [⟨"name", true, none⟩] ([name, "Ann"].map editedRows.named) =
        .ok (["Ann", name].map editedRows.named) := by
      refine (OrderTerm.sortRows_pair named (l := some (.string "Ann")) rfl rfl rfl).trans ?_
      exact congrArg Except.ok (if_pos (decide_eq_true later))
    have found : Entries.find? (Codes.ofString "authors") (members id [name, "Ann"]) =
        some (.array ([name, "Ann"].map editedRows.named)) := rfl
    simp only [mapList, row, found, sorts]
    rfl
  have both : overRows (mapList "authors" (orderRows [⟨"name", true, none⟩]))
      [row 2 ["Di", "Ann"], row 1 ["Bo", "Ann"]] =
        .ok [row 2 ["Ann", "Di"], row 1 ["Ann", "Bo"]] := by
    rw [overRows, overRows, listed 2 rfl (by decide), listed 1 rfl (by decide)]
    rfl
  have turned : orderRelations q.embedded [row 2 ["Di", "Ann"], row 1 ["Bo", "Ann"]] =
      .ok [row 2 ["Ann", "Di"], row 1 ["Ann", "Bo"]] := by
    simp only [q, orderRelations, both]
    rfl
  have ran : q.run editedRows = .ok ⟨[first 2, first 1], 2, 0⟩ :=
    run_eq_ok_iff.mpr ⟨_, _, _, _, rfl, ordered_eq_ok_iff.mpr ⟨_, sorts, turned⟩, rfl, rfl, rfl⟩
  have unselected : ∀ pair ∈ pairs, pair.1 ≠ "select" := by decide
  have apart : ∀ t ∈ q.scope.order, t.base ∉ Entries.names q.embedded := by decide
  exact ⟨q, parsed, ran, rows_of_run objects unselected parsed related apart ran⟩

end Query

end TableServer
