import TableServer.Proofs.Query.RowFilters

/-! Totals. A query counts the rows that satisfy its filters and hold something of every inner
relation that meets the filters there. Nothing else that its parameters spell changes the count. -/
namespace TableServer

theorem countP_of_forall₂ {α β : Type} {p : α → Bool} {q : β → Bool} {xs : List α} {ys : List β}
    (same : List.Forall₂ (fun x y => q y = p x) xs ys) : ys.countP q = xs.countP p := by
  induction same with
  | nil => rfl
  | cons head _ ih => rw [List.countP_cons, List.countP_cons, ih, head]

namespace Scope

def satisfiedBy (s : Scope) (row : Value) : Bool :=
  s.filters.all fun f => RowPredicate.chooses f.holds row

/-- Whether what a row holds of a relation meets the filters: an object that satisfies them, a list
of which an item does, or, where there are none, anything else but null. -/
def metBy (s : Scope) : Option Value → Bool
  | none | some .null => false
  | some (.object members) => s.satisfiedBy (.object members)
  | some (.array items) => items.any s.satisfiedBy
  | some _ => s.filters.isEmpty

variable {s : Scope}

theorem satisfiedBy_of_predicate? {f : Filter} (told : s.predicate? = some f) (row : Value) :
    s.satisfiedBy row = RowPredicate.chooses f.holds row := by
  have holds : f.holds row = .ok true ↔ _ := Filter.holds_conjoin told
  rw [Bool.eq_iff_iff, RowPredicate.chooses_eq_true_iff, holds, satisfiedBy, List.all_eq_true]
  simp only [RowPredicate.chooses_eq_true_iff]

theorem filters_of_no_predicate (untold : s.predicate? = none) : s.filters = [] :=
  Filter.conjoin_eq_none_iff.mp untold

theorem satisfiedBy_of_no_predicate (untold : s.predicate? = none) (row : Value) :
    s.satisfiedBy row = true := by
  rw [satisfiedBy, filters_of_no_predicate untold]
  rfl

theorem metBy_congr {t : Scope} (same : s.filters = t.filters) : s.metBy = t.metBy := by
  have satisfied : s.satisfiedBy = t.satisfiedBy := by
    funext row
    rw [satisfiedBy, same, satisfiedBy]
  funext held
  cases held with
  | none => rfl
  | some v => cases v <;> simp only [metBy, satisfied, same]

end Scope

namespace Query

variable {q : Query} {rows kept : List Value}

theorem chosenRows_eq_filter (h : q.chosenRows rows = .ok kept) :
    kept = rows.filter q.scope.satisfiedBy := by
  unfold chosenRows at h
  cases hp : q.scope.predicate? with
  | none =>
      rw [hp] at h
      cases h
      exact (List.filter_eq_self.mpr fun row _ => Scope.satisfiedBy_of_no_predicate hp row).symm
  | some f =>
      rw [hp] at h
      obtain ⟨-, rfl⟩ := selectRows_eq_ok_iff.mp h
      exact List.filter_congr fun row _ => (Scope.satisfiedBy_of_predicate? hp row).symm

/-- Whether there is something of a relation. -/
def remains : Option Value → Bool
  | none | some .null => false
  | some (.array items) => !items.isEmpty
  | some _ => true

theorem hasRelated_object (relation : String) (members : Members) :
    hasRelated relation (.object members) = .ok (remains (Entries.find? ↑relation members)) := by
  cases hf : Entries.find? ↑relation members with
  | none => simp [hasRelated, hf, remains]
  | some v => cases v <;> simp [hasRelated, hf, remains]

section Filtering

variable {relation : String} {s : Scope} {held out : Option Value}

theorem chosen_of_filtering {items : List Value}
    (h : filtering.alter relation s (some (.array items)) = .ok out) :
    ∃ kept, (ofScope s).chosenRows items = .ok kept ∧ out = some (.array kept) := by
  obtain ⟨untold, rfl⟩ | ⟨f, _, left, told, same, hl, rfl⟩ := filtering_cases h
  · exact ⟨items, by simp [chosenRows, ofScope, untold], rfl⟩
  · cases same
    unfold filterRelated at hl
    dsimp only at hl
    split at hl
    · cases hl
    · rename_i kept selected
      cases hl
      exact ⟨kept, by simpa [chosenRows, ofScope, told] using selected, rfl⟩

theorem filtering_object {members : Members}
    (h : filtering.alter relation s (some (.object members)) = .ok out) :
    out = some (if s.satisfiedBy (.object members) then .object members else .null) := by
  obtain ⟨untold, rfl⟩ | ⟨f, _, left, told, same, hl, rfl⟩ := filtering_cases h
  · rw [Scope.satisfiedBy_of_no_predicate untold, if_pos rfl]
  · cases same
    unfold filterRelated at hl
    dsimp only at hl
    split at hl
    · cases hl
    · rename_i b decided
      cases hl
      rw [Scope.satisfiedBy_of_predicate? told, RowPredicate.chooses_of_eq decided]

theorem filtering_null (h : filtering.alter relation s (some .null) = .ok out) :
    out = some .null := by
  obtain ⟨-, rfl⟩ | ⟨f, _, left, -, same, hl, rfl⟩ := filtering_cases h
  · rfl
  · cases same
    cases hl
    rfl

theorem remains_of_filtering (h : filtering.alter relation s held = .ok out) :
    remains out = s.metBy held := by
  cases held with
  | none =>
      have absent : out = none := by simpa using filtering.keeps h
      rw [absent]
      rfl
  | some v =>
      cases v with
      | null =>
          rw [filtering_null h]
          rfl
      | object members =>
          rw [filtering_object h, Scope.metBy]
          cases s.satisfiedBy (.object members) <;> rfl
      | array items =>
          obtain ⟨kept, chosen, rfl⟩ := chosen_of_filtering h
          obtain rfl := chosenRows_eq_filter chosen
          rw [remains, Scope.metBy, Bool.eq_iff_iff]
          simp [ofScope]
      | _ =>
          -- A scalar is left only where there are no filters.
          obtain ⟨untold, rfl⟩ | ⟨f, _, left, -, same, hl, rfl⟩ := filtering_cases h
          · simp [remains, Scope.metBy, Scope.filters_of_no_predicate untold]
          · cases same
            cases hl

end Filtering

theorem keepInner_objects (relations : List String) (ms : List Members) :
    keepInner relations (ms.map .object) =
      .ok ((ms.filter fun m => relations.all fun r => remains (Entries.find? ↑r m)).map .object) := by
  induction relations generalizing ms with
  | nil => simp [keepInner]
  | cons relation rest ih =>
      have decided : ∀ m : Members, RowPredicate.chooses (hasRelated relation) (.object m) =
          remains (Entries.find? ↑relation m) := fun m =>
        RowPredicate.chooses_of_eq (hasRelated_object relation m)
      have selected : selectRows (hasRelated relation) (ms.map .object) =
          .ok ((ms.filter fun m => remains (Entries.find? ↑relation m)).map .object) := by
        refine selectRows_eq_ok_iff.mpr ⟨?_, ?_⟩
        · intro row hr
          obtain ⟨m, -, rfl⟩ := List.mem_map.mp hr
          rw [decided, hasRelated_object]
        · rw [List.filter_map]
          exact congrArg _ (List.filter_congr fun m _ => decided m)
      simp only [keepInner, selected, ih, List.filter_filter, List.all_cons, Bool.and_comm]

theorem remains_of_row (unique : (Entries.names q.embedded).Nodup) {members out : Members}
    (h : filtering.row q.embedded members = .ok out) (relation : String) :
    remains (Entries.find? ↑relation out) =
      (q.scopeOf relation).metBy (Entries.find? ↑relation members) := by
  rw [scopeOf]
  cases hs : Entries.find? relation q.embedded with
  | some s =>
      have there : (relation, s) ∈ q.embedded := Entries.mem_of_find? hs
      exact remains_of_filtering (Alteration.alter_of_row unique h there)
  | none =>
      rw [Alteration.find?_row (Entries.find?_eq_none_iff.mp hs) h]
      have idle : filtering.alter relation .empty (Entries.find? ↑relation members) =
          .ok (Entries.find? ↑relation members) := rfl
      exact remains_of_filtering idle

def counts (q : Query) (row : Value) : Bool :=
  q.scope.satisfiedBy row && q.projection.innerRelations.all fun relation =>
    (q.scopeOf relation).metBy (row.members?.bind (Entries.find? ↑relation))

theorem total_eq_countP (unique : (Entries.names q.embedded).Nodup)
    (objects : ∀ row ∈ rows, row.isObject = true) {result : QueryResult}
    (h : q.run rows = .ok result) : result.total = rows.countP q.counts := by
  obtain ⟨found, -, -, -, matched, -, -, -, rfl⟩ := run_eq_ok_iff.mp h
  obtain ⟨kept, narrowed, chosen, filtered, inner⟩ := matching_eq_ok_iff.mp matched
  obtain rfl := chosenRows_eq_filter chosen
  obtain ⟨ms, hms⟩ := eq_map_object fun row hr => objects row (List.mem_filter.mp hr).1
  rw [hms, filterRelations_objects] at filtered
  obtain ⟨ns, hns, rfl⟩ := Outcome.map_eq_ok_iff.mp filtered
  cases (keepInner_objects _ ns).symm.trans inner
  have paired := Outcome.mapM_eq_ok_iff.mp (Alteration.rows_eq_ok_iff.mp hns)
  let meets (members : Members) : Bool := q.projection.innerRelations.all fun relation =>
    (q.scopeOf relation).metBy (Entries.find? ↑relation members)
  have same : List.Forall₂ (fun m n => (q.projection.innerRelations.all fun relation =>
      remains (Entries.find? ↑relation n)) = meets m) ms ns :=
    paired.imp fun m n narrow =>
      congrArg q.projection.innerRelations.all (funext (remains_of_row unique narrow))
  calc
    ((ns.filter _).map Value.object).length = ns.countP _ := by
      rw [List.length_map, ← List.countP_eq_length_filter]
    _ = ms.countP meets := countP_of_forall₂ same
    _ = (ms.map Value.object).countP (fun row => q.projection.innerRelations.all fun relation =>
          (q.scopeOf relation).metBy (row.members?.bind (Entries.find? ↑relation))) := by
      rw [List.countP_map]
      rfl
    _ = rows.countP q.counts := by
      rw [← hms, List.countP_filter]
      exact List.countP_congr fun row _ => by rw [counts, Bool.and_comm]

end Query

namespace Parameter

/-- The key and the value of a filter that a pair tells of a relation; `p` tells the relations
behind aliases. -/
def relationFilter? (p : Projection) (relation : String) (pair : String × String) :
    Option (List Char × List Char) :=
  match embeddedKey? pair.1 with
  | some (name, key) =>
      if p.relationFor (String.ofList name) = relation ∧
          modifierKeys.contains (String.ofList key) = false then
        some (key, pair.2.toList)
      else none
  | none => none

variable {p : Projection} {pair : String × String} {x : Parameter}

theorem read_embeddedFilter {name key : List Char}
    (parts : embeddedKey? pair.1 = some (name, key))
    (plain : modifierKeys.contains (String.ofList key) = false) :
    read p pair = (readFilter key pair.2.toList).map
      (.embedded (p.relationFor (String.ofList name)) ∘ .filter) := by
  have free := not_reserved_of_embeddedKey? parts
  have other (message : String) : readModifier? message (String.ofList key) pair.2.toList = none :=
    readModifier?_eq_none_iff.mpr plain
  unfold embeddedKey? at parts
  split at parts
  · cases parts
  · rename_i own
    have column : Filter.isLogicKey pair.1 = false :=
      (Bool.or_eq_false_iff.mp (Bool.of_not_eq_true own)).2
    simp only [read, free, column, parts, other, Bool.false_eq_true, if_false]

def filterFor? (relation : String) (x : Parameter) : Option Filter :=
  (clauseFor? relation x).bind Clause.filter?

theorem filterFor?_of_read (h : read p pair = .ok x) (relation : String) :
    Option.Rel (fun told f => readFilter told.1 told.2 = .ok f) (relationFilter? p relation pair)
      (x.filterFor? relation) := by
  have neither (own : embeddedKey? pair.1 = none) : relationFilter? p relation pair = none := by
    rw [relationFilter?, own]
  cases readAs_of_read h with
  | silent _ own => exact neither own ▸ .none
  | modifier _ own => exact neither own ▸ .none
  | filter _ _ own => exact neither own ▸ .none
  | @embeddedModifier name key c parts told =>
      have untold : relationFilter? p relation pair = none := by
        simp only [relationFilter?, parts]
        exact if_neg fun both => Bool.false_ne_true (both.2.symm.trans told.modifierKey)
      have unfiltered : filterFor? relation (.embedded (p.relationFor (String.ofList name)) c) =
          none := by
        have modifies := told.modifies
        cases c with
        | filter f => cases modifies
        | _ => by_cases here : p.relationFor (String.ofList name) = relation <;>
            simp [filterFor?, clauseFor?, here, Clause.filter?]
      rw [untold, unfiltered]
      exact .none
  | @embeddedFilter name key f parts plain =>
      by_cases here : p.relationFor (String.ofList name) = relation
      · have told : relationFilter? p relation pair = some (key, pair.2.toList) := by
          simp only [relationFilter?, parts]
          exact if_pos ⟨here, plain⟩
        rw [read_embeddedFilter parts plain] at h
        obtain ⟨g, hg, same⟩ := Outcome.map_eq_ok_iff.mp h
        cases same
        simp only [told, filterFor?, clauseFor?, here, if_true]
        exact .some hg
      · simp only [relationFilter?, parts, filterFor?, clauseFor?, here, false_and, if_false]
        exact .none

end Parameter

namespace Query

open Parameter

variable {pairs others : List (String × String)} {header header' : Option String} {q r : Query}

theorem withHeader_relations (h : withHeader header q = .ok r) :
    r.embedded = q.embedded ∧ r.projection = q.projection := by
  unfold withHeader at h
  split at h
  · obtain ⟨w, -, rfl⟩ := Outcome.map_eq_ok_iff.mp h
    exact ⟨rfl, rfl⟩
  · cases h
    exact ⟨rfl, rfl⟩

/-- What pairs spell of all that a count looks at: the select list, the filters of the rows, and the
filters of each relation. -/
structure FilteredBy (q : Query) (pairs : List (String × String)) : Prop where
  projection : readProjection pairs = .ok q.projection
  rows : (pairs.filter fun pair => FiltersRows pair.1).mapM
    (fun pair => readFilter pair.1.toList pair.2.toList) = .ok q.scope.filters
  relations : ∀ relation, (pairs.filterMap (relationFilter? q.projection relation)).mapM
    (fun told => readFilter told.1 told.2) = .ok (q.scopeOf relation).filters

theorem embedded_of_read (h : read pairs header = .ok q) :
    ∃ parameters, readProjection pairs = .ok q.projection ∧
      pairs.mapM (Parameter.read q.projection) = .ok parameters ∧
      q.embedded = (ofParameters q.projection parameters).embedded := by
  obtain ⟨p, parameters, hp, hr, hq⟩ := read_eq_ok_iff.mp h
  obtain ⟨embedded, projection⟩ := withHeader_relations hq
  obtain rfl : q.projection = p := projection.trans (scope_foldl_add parameters _).2
  exact ⟨parameters, hp, hr, embedded⟩

theorem nodup_names_of_read (h : read pairs header = .ok q) :
    (Entries.names q.embedded).Nodup := by
  obtain ⟨parameters, -, -, embedded⟩ := embedded_of_read h
  have start : (Entries.names (⟨.empty, [], q.projection⟩ : Query).embedded).Nodup := List.nodup_nil
  rw [embedded]
  exact (names_foldl_add parameters start).1

theorem filteredBy_of_read (h : read pairs header = .ok q) : q.FilteredBy pairs := by
  obtain ⟨parameters, hp, hr, embedded⟩ := embedded_of_read h
  refine ⟨hp, filters_of_read h, fun relation => ?_⟩
  have collected : (q.scopeOf relation).filters =
      parameters.filterMap (filterFor? relation) := by
    have scope := scopeOf_foldl_add relation parameters ⟨.empty, [], q.projection⟩
    rw [scopeOf, embedded]
    unfold scopeOf at scope
    rw [ofParameters, scope, Scope.filters_foldl_add, List.filterMap_filterMap]
    rfl
  rw [collected, Outcome.mapM_eq_ok_iff]
  exact List.rel_filterMap (R := fun pair x => Parameter.read q.projection pair = .ok x)
    (fun _ _ told => filterFor?_of_read told relation) (Outcome.mapM_eq_ok_iff.mp hr)

/-- Whether a count looks at a pair: it filters the rows or an inner relation. -/
def countsPair (p : Projection) (pair : String × String) : Bool :=
  FiltersRows pair.1 || p.innerRelations.any fun relation =>
    (relationFilter? p relation pair).isSome

/-- Queries that join and name the same relations, and whose pairs are the same but for those that
no count looks at. -/
structure CountsLike (q r : Query) (pairs others : List (String × String)) : Prop where
  inner : ∀ relation, relation ∈ r.projection.innerRelations ↔
    relation ∈ q.projection.innerRelations
  names : ∀ name, r.projection.relationFor name = q.projection.relationFor name
  filters : others.filter (countsPair q.projection) = pairs.filter (countsPair q.projection)

theorem filter_filtersRows (p : Projection) (pairs : List (String × String)) :
    (pairs.filter (countsPair p)).filter (fun pair => FiltersRows pair.1) =
      pairs.filter fun pair => FiltersRows pair.1 := by
  rw [List.filter_filter]
  refine List.filter_congr fun pair _ => ?_
  rw [countsPair, Bool.and_or_distrib_left, Bool.and_self]
  cases decide (FiltersRows pair.1) <;> rfl

theorem filterMap_relationFilter? {p : Projection} {relation : String}
    (inner : relation ∈ p.innerRelations) (pairs : List (String × String)) :
    (pairs.filter (countsPair p)).filterMap (relationFilter? p relation) =
      pairs.filterMap (relationFilter? p relation) := by
  rw [List.filterMap_filter]
  refine List.filterMap_congr fun pair _ => ?_
  split
  · rfl
  · rename_i overlooked
    cases told : relationFilter? p relation pair with
    | none => rfl
    | some text =>
        refine absurd ?_ overlooked
        simp only [countsPair, Bool.or_eq_true, List.any_eq_true]
        exact .inr ⟨relation, inner, by rw [told]; rfl⟩

theorem CountsLike.counts_eq (alike : q.CountsLike r pairs others) (hq : q.FilteredBy pairs)
    (hr : r.FilteredBy others) : r.counts = q.counts := by
  have scope : r.scope.filters = q.scope.filters := by
    have told := hr.rows
    rw [← filter_filtersRows q.projection, alike.filters, filter_filtersRows] at told
    exact Except.ok.inj (told.symm.trans hq.rows)
  have related : ∀ relation ∈ q.projection.innerRelations,
      (r.scopeOf relation).metBy = (q.scopeOf relation).metBy := by
    intro relation inner
    have renamed : relationFilter? r.projection relation = relationFilter? q.projection relation := by
      funext pair
      simp only [relationFilter?, alike.names]
    have told := hr.relations relation
    rw [renamed, ← filterMap_relationFilter? inner, alike.filters,
      filterMap_relationFilter? inner] at told
    exact Scope.metBy_congr (Except.ok.inj (told.symm.trans (hq.relations relation)))
  funext row
  rw [counts, counts, Scope.satisfiedBy, scope, Scope.satisfiedBy, Bool.eq_iff_iff]
  simp only [Bool.and_eq_true, List.all_eq_true, alike.inner]
  refine and_congr_right fun _ => forall₂_congr fun relation inner => ?_
  rw [related relation inner]

/-- The total is the number of rows that satisfy the filters of the rows and hold, of each inner
relation, something that meets the filters of the relation. Orders, windows, columns, and all that
is told of other relations never change it. -/
theorem total_of_run {rows : List Value} (objects : ∀ row ∈ rows, row.isObject = true)
    (parsed : read pairs header = .ok q) {result : QueryResult} (ran : q.run rows = .ok result) :
    q.FilteredBy pairs ∧ result.total = rows.countP q.counts ∧
      ∀ others header' r result', q.CountsLike r pairs others → read others header' = .ok r →
        r.run rows = .ok result' → result'.total = result.total := by
  have filtered := filteredBy_of_read parsed
  have total := total_eq_countP (nodup_names_of_read parsed) objects ran
  refine ⟨filtered, total, fun others header' r result' alike parsed' ran' => ?_⟩
  calc
    result'.total = rows.countP r.counts :=
      total_eq_countP (nodup_names_of_read parsed') objects ran'
    _ = rows.countP q.counts := by rw [alike.counts_eq filtered (filteredBy_of_read parsed')]
    _ = result.total := total.symm

def editedRows : List Value :=
  [.object [("id", .ofInt 1), ("authors", .array [named "Bo", named "Ann"]),
      ("editor", named "Cy")],
    .object [("id", .ofInt 2), ("authors", .array [named "Di", named "Ann"]), ("editor", .null)]]
where
  named (name : String) : Value := .object [("name", .string name)]

def joinedWriters (columns : List ColumnRef) : Projection :=
  ⟨false, columns, [(⟨"authors", some "writers", true⟩, ⟨false, [⟨"name", none⟩], []⟩)]⟩

theorem projection_of_joinedWriters :
    Projection.read "writers:authors!inner(name)".toList = .ok (joinedWriters []) ∧
      Projection.read "id,writers:authors!inner(name)".toList =
        .ok (joinedWriters [⟨"id", none⟩]) := by
  have inner : Projection.read "name".toList = .ok ⟨false, [⟨"name", none⟩], []⟩ := by
    rw [Projection.read_eq]
    rfl
  have embed : Projection.readItem "writers:authors!inner(name)".toList =
      .ok (.embed ⟨"authors", some "writers", true⟩ ⟨false, [⟨"name", none⟩], []⟩) :=
    congrArg (Except.map (Projection.Item.embed ⟨"authors", some "writers", true⟩)) inner
  have items : ["writers:authors!inner(name)".toList].mapM Projection.readItem = .ok
      [.embed ⟨"authors", some "writers", true⟩ ⟨false, [⟨"name", none⟩], []⟩] := by
    rw [List.mapM_cons, embed]
    rfl
  have items' : ["id".toList, "writers:authors!inner(name)".toList].mapM Projection.readItem = .ok
      [.column ⟨"id", none⟩,
        .embed ⟨"authors", some "writers", true⟩ ⟨false, [⟨"name", none⟩], []⟩] := by
    rw [List.mapM_cons, items]
    rfl
  constructor
  · rw [Projection.read_eq]
    exact congrArg (Except.map Projection.ofItems) items
  · rw [Projection.read_eq]
    exact congrArg (Except.map Projection.ofItems) items'

theorem total_of_joinedWriters :
    let few := [("select", "writers:authors!inner(name)"), ("writers.name", "eq.Bo")]
    let more := [("order", "id.desc"), ("editor.name", "eq.Di"), ("writers.name", "eq.Bo"),
      ("writers.limit", "1"), ("select", "id,writers:authors!inner(name)"), ("limit", "0")]
    ∃ q r a b, read few none = .ok q ∧ q.run editedRows = .ok a ∧ read more none = .ok r ∧
      r.run editedRows = .ok b ∧ q.CountsLike r few more ∧ b.rows = [] ∧
      editedRows.countP q.counts = 1 ∧ a.total = 1 ∧ b.total = 1 := by
  intro few more
  have objects : ∀ row ∈ editedRows, row.isObject = true := by
    intro row hr
    rcases List.mem_pair.mp hr with rfl | rfl <;> rfl
  obtain ⟨selected, selected'⟩ := projection_of_joinedWriters
  have chosen : readProjection few = .ok (joinedWriters []) :=
    congrArg (Except.bind · _) selected
  have chosen' : readProjection more = .ok (joinedWriters [⟨"id", none⟩]) :=
    congrArg (Except.bind · _) selected'
  let bo : Filter := .condition ⟨"name", "Bo", .equals "Bo"⟩
  let di : Filter := .condition ⟨"name", "Di", .equals "Di"⟩
  let q : Query := ⟨.empty, [("authors", ⟨[bo], [], .whole⟩)], joinedWriters []⟩
  let r : Query := ⟨⟨[], [⟨"id", false, none⟩], ⟨none, some 0⟩⟩,
    [("editor", ⟨[di], [], .whole⟩), ("authors", ⟨[bo], [], ⟨none, some 1⟩⟩)],
    joinedWriters [⟨"id", none⟩]⟩
  have parsed : read few none = .ok q := read_eq_ok_iff.mpr ⟨_, _, chosen, rfl, rfl⟩
  have parsed' : read more none = .ok r := read_eq_ok_iff.mpr ⟨_, _, chosen', rfl, rfl⟩
  have ran : q.run editedRows =
      .ok ⟨[.object [("writers", .array [editedRows.named "Bo"])]], 1, 0⟩ := rfl
  have ran' : r.run editedRows = .ok ⟨[], 1, 0⟩ := rfl
  have alike : q.CountsLike r few more := ⟨fun _ => Iff.rfl, fun _ => rfl, rfl⟩
  obtain ⟨-, total, unchanged⟩ := total_of_run objects parsed ran
  exact ⟨q, r, _, _, parsed, ran, parsed', ran', alike, rfl, total.symm, rfl,
    unchanged more none r _ alike parsed' ran'⟩

end Query

end TableServer
