import TableServer.Proofs.Query.Pages
import TableServer.Proofs.Query.Relations
import TableServer.Proofs.Select.Reader

/-! Parameters in another order. Filters may stand anywhere. Only select lists, the orders and
windows of the rows, and those of each referenced table keep their order among themselves. -/
namespace TableServer

theorem filter_filterMap_eq {α β : Type} {g : α → Option β} {k : β → Bool} {m : α → Bool}
    {xs : List α} (told : ∀ x ∈ xs, (g x).any k = m x) :
    (xs.filterMap g).filter k = (xs.filter m).filterMap g := by
  induction xs with
  | nil => rfl
  | cons x rest ih =>
      have head := told x (by simp)
      have tail := ih fun y hy => told y (by simp [hy])
      cases hg : g x with
      | none =>
          rw [hg] at head
          simp [hg, ← head, tail]
      | some c =>
          rw [hg, Option.any_some] at head
          cases hk : k c with
          | false => simp [hg, ← head, hk, tail]
          | true => simp [hg, ← head, hk, tail]

namespace Clause

def modifies : Clause → Bool
  | filter _ => false
  | _ => true

def filter? : Clause → Option Filter
  | filter f => some f
  | _ => none

theorem ToldBy.modifies {c : Clause} {key : String} (h : c.ToldBy key) : c.modifies = true := by
  cases h <;> rfl

theorem ToldBy.modifierKey {c : Clause} {key : String} (h : c.ToldBy key) :
    modifierKeys.contains key = true := by
  cases h <;> rfl

end Clause

namespace Scope

theorem filters_foldl_add (clauses : List Clause) (s : Scope) :
    (clauses.foldl add s).filters = s.filters ++ clauses.filterMap Clause.filter? := by
  induction clauses generalizing s with
  | nil => simp
  | cons c rest ih =>
      rw [List.foldl_cons, ih]
      cases c with
      | filter f => exact List.append_assoc s.filters [f] (rest.filterMap Clause.filter?)
      | _ => rfl

theorem modifiers_foldl_add (clauses : List Clause) {s t : Scope} (order : s.order = t.order)
    (window : s.window = t.window) :
    (clauses.foldl add s).order = ((clauses.filter Clause.modifies).foldl add t).order ∧
      (clauses.foldl add s).window = ((clauses.filter Clause.modifies).foldl add t).window := by
  induction clauses generalizing s t with
  | nil => exact ⟨order, window⟩
  | cons c rest ih =>
      cases c with
      | filter f => exact ih order window
      | order terms => exact ih (congrArg (· ++ terms) order) window
      | limit n => exact ih order (congrArg (fun w : Window => { w with limit := some n }) window)
      | offset n => exact ih order (congrArg (fun w : Window => { w with offset := some n }) window)
      | window w => exact ih order rfl

/-- Clauses in another order, of which those that are no filters keep their order, make scopes that
are alike. -/
theorem alike_of_perm {clauses others : List Clause} (perm : clauses.Perm others)
    (same : clauses.filter Clause.modifies = others.filter Clause.modifies) :
    Alike (clauses.foldl add .empty) (others.foldl add .empty) := by
  obtain ⟨order, window⟩ := modifiers_foldl_add clauses (s := .empty) rfl rfl
  obtain ⟨order', window'⟩ := modifiers_foldl_add others (s := .empty) rfl rfl
  refine ⟨?_, ?_, ?_⟩
  · rw [filters_foldl_add, filters_foldl_add]
    exact (perm.filterMap _).append_left _
  · rw [order, order', same]
  · rw [window, window', same]

end Scope

namespace Parameter

def topClause? : Parameter → Option Clause
  | .top c => some c
  | _ => none

def clauseFor? (relation : String) : Parameter → Option Clause
  | .embedded name c => if name = relation then some c else none
  | _ => none

def modifiesRows (pair : String × String) : Bool :=
  modifierKeys.contains pair.1

/-- Whether a pair orders what rows hold of a relation or tells a window of it; `p` tells the
relations behind aliases. -/
def modifiesRelation (p : Projection) (relation : String) (pair : String × String) : Bool :=
  match embeddedKey? pair.1 with
  | some (name, key) =>
      p.relationFor (String.ofList name) = relation && modifierKeys.contains (String.ofList key)
  | none => false

theorem any_modifies_of_read {p : Projection} {pair : String × String} {x : Parameter}
    (h : read p pair = .ok x) :
    (topClause? x).any Clause.modifies = modifiesRows pair ∧
      ∀ relation, (clauseFor? relation x).any Clause.modifies =
        modifiesRelation p relation pair := by
  have unreserved (h : reservedKeys.contains pair.1 = false) : modifiesRows pair = false :=
    contains_eq_false_of_subset modifierKeys_subset h
  cases readAs_of_read h with
  | silent plain own => exact ⟨plain.symm, fun relation => by rw [modifiesRelation, own]; rfl⟩
  | modifier told own =>
      refine ⟨told.modifies.trans told.modifierKey.symm, fun relation => ?_⟩
      rw [modifiesRelation, own]
      rfl
  | filter f plain own =>
      exact ⟨(unreserved plain).symm, fun relation => by rw [modifiesRelation, own]; rfl⟩
  | @embeddedModifier name rest c parts told =>
      refine ⟨(unreserved (not_reserved_of_embeddedKey? parts)).symm, fun relation => ?_⟩
      rw [modifiesRelation, parts]
      by_cases here : p.relationFor (String.ofList name) = relation
      · simpa [clauseFor?, here, told.modifies] using told.modifierKey
      · simp [clauseFor?, here]
  | @embeddedFilter name rest f parts plain =>
      refine ⟨(unreserved (not_reserved_of_embeddedKey? parts)).symm, fun relation => ?_⟩
      rw [modifiesRelation, parts]
      by_cases here : p.relationFor (String.ofList name) = relation
      · simpa [clauseFor?, here, Clause.modifies] using plain
      · simp [clauseFor?, here]

end Parameter

namespace Query

open Parameter

theorem scope_foldl_add (xs : List Parameter) (q : Query) :
    (xs.foldl add q).scope = (xs.filterMap topClause?).foldl Scope.add q.scope ∧
      (xs.foldl add q).projection = q.projection := by
  induction xs generalizing q with
  | nil => exact ⟨rfl, rfl⟩
  | cons x rest ih => cases x <;> exact ih _

theorem scopeOf_foldl_add (relation : String) (xs : List Parameter) (q : Query) :
    (xs.foldl add q).scopeOf relation =
      (xs.filterMap (clauseFor? relation)).foldl Scope.add (q.scopeOf relation) := by
  induction xs generalizing q with
  | nil => rfl
  | cons x rest ih =>
      rw [List.foldl_cons, ih]
      cases x with
      | embedded name c =>
          by_cases here : name = relation
          · subst here
            simp [clauseFor?, add, scopeOf]
          · simp [clauseFor?, here, add, scopeOf, Entries.find?_put_of_ne (Ne.symm here)]
      | _ => rfl

theorem names_foldl_add (xs : List Parameter) {q : Query}
    (unique : (Entries.names q.embedded).Nodup) :
    (Entries.names (xs.foldl add q).embedded).Nodup ∧
      ∀ relation, relation ∈ Entries.names (xs.foldl add q).embedded ↔
        relation ∈ Entries.names q.embedded ∨ ∃ x ∈ xs, (clauseFor? relation x).isSome = true := by
  induction xs generalizing q with
  | nil => exact ⟨unique, by simp⟩
  | cons x rest ih =>
      cases x with
      | embedded name c =>
          obtain ⟨unique', mem⟩ := ih (q := q.add (.embedded name c))
            (Entries.nodup_names_put unique name _)
          refine ⟨unique', fun relation => (mem relation).trans ?_⟩
          simp only [add, Entries.mem_names_put, List.exists_mem_cons_iff, clauseFor?]
          by_cases here : name = relation
          · simp [here]
          · simp [here, Ne.symm here]
      | silent =>
          obtain ⟨unique', mem⟩ := ih unique
          exact ⟨unique', fun relation => (mem relation).trans (by simp [clauseFor?])⟩
      | top c =>
          obtain ⟨unique', mem⟩ := ih (q := q.add (.top c)) unique
          exact ⟨unique', fun relation => (mem relation).trans (by simp [clauseFor?, add])⟩

theorem ofParameters_alike (p : Projection) {xs ys : List Parameter} (perm : xs.Perm ys)
    (top : (xs.filterMap topClause?).filter Clause.modifies =
      (ys.filterMap topClause?).filter Clause.modifies)
    (embedded : ∀ relation, (xs.filterMap (clauseFor? relation)).filter Clause.modifies =
      (ys.filterMap (clauseFor? relation)).filter Clause.modifies) :
    (ofParameters p xs).Alike (ofParameters p ys) := by
  have start : (Entries.names (⟨.empty, [], p⟩ : Query).embedded).Nodup := List.nodup_nil
  obtain ⟨unique, mem⟩ := names_foldl_add xs start
  obtain ⟨unique', mem'⟩ := names_foldl_add ys start
  obtain ⟨scope, projection⟩ := scope_foldl_add xs ⟨.empty, [], p⟩
  obtain ⟨scope', projection'⟩ := scope_foldl_add ys ⟨.empty, [], p⟩
  refine ⟨?_, ⟨unique, ?_, fun relation => ?_⟩, projection.trans projection'.symm⟩
  · unfold ofParameters
    rw [scope, scope']
    exact Scope.alike_of_perm (perm.filterMap _) top
  · refine (List.perm_ext_iff_of_nodup unique unique').mpr fun relation => ?_
    rw [mem, mem']
    simp only [perm.mem_iff]
  · have told := scopeOf_foldl_add relation xs ⟨.empty, [], p⟩
    have told' := scopeOf_foldl_add relation ys ⟨.empty, [], p⟩
    unfold scopeOf at told told'
    unfold ofParameters
    rw [told, told']
    exact Scope.alike_of_perm (perm.filterMap _) (embedded relation)

theorem withHeader_alike {q r q' : Query} (alike : q.Alike r) {header : Option String}
    (h : withHeader header q = .ok q') : ∃ r', withHeader header r = .ok r' ∧ q'.Alike r' := by
  unfold withHeader at h ⊢
  rw [← alike.scope.window]
  split at h
  · rename_i whole
    obtain ⟨w, hw, rfl⟩ := Outcome.map_eq_ok_iff.mp h
    rw [if_pos whole, hw]
    exact ⟨_, rfl, ⟨alike.scope.filters, alike.scope.order, rfl⟩, alike.relations, alike.projection⟩
  · rename_i told
    cases h
    exact ⟨r, if_neg told, alike⟩

/-- Pairs whose select lists, modifiers of the rows, and modifiers of each relation stand in the
same order. -/
structure SameModifiers (pairs others : List (String × String)) : Prop where
  selects : pairs.filter (·.1 = "select") = others.filter (·.1 = "select")
  rows : pairs.filter modifiesRows = others.filter modifiesRows
  relations : ∀ p, readProjection pairs = .ok p → ∀ relation,
    pairs.filter (modifiesRelation p relation) = others.filter (modifiesRelation p relation)

variable {pairs others : List (String × String)}

theorem SameModifiers.readProjection_eq (same : SameModifiers pairs others) :
    readProjection pairs = readProjection others := by
  have selects (pair : String × String) : pair.1 = "select" → decide (pair.1 = "select") = true :=
    decide_eq_true
  rw [← readProjection_filter selects pairs, same.selects, readProjection_filter selects]

theorem SameModifiers.symm (same : SameModifiers pairs others) : SameModifiers others pairs :=
  ⟨same.selects.symm, same.rows.symm, fun p hp relation =>
    (same.relations p (same.readProjection_eq.trans hp) relation).symm⟩

/-- What a pair is read as, silent where it is refused. -/
def readOr (p : Projection) (pair : String × String) : Parameter :=
  match Parameter.read p pair with
  | .ok x => x
  | .error _ => .silent

theorem readOr_of_ok {p : Projection} {pair : String × String} {x : Parameter}
    (h : Parameter.read p pair = .ok x) : readOr p pair = x := by
  rw [readOr, h]

theorem read_of_perm (perm : pairs.Perm others) (same : SameModifiers pairs others)
    {header : Option String} {q : Query} (h : read pairs header = .ok q) :
    ∃ r, read others header = .ok r ∧ q.Alike r := by
  obtain ⟨p, xs, hp, hx, hq⟩ := read_eq_ok_iff.mp h
  have told : ∀ pair ∈ pairs, Parameter.read p pair = .ok (readOr p pair) := by
    intro pair hm
    obtain ⟨x, -, hr⟩ := Outcome.read_of_mem_mapM hx hm
    rw [readOr_of_ok hr, hr]
  have told' : ∀ pair ∈ others, Parameter.read p pair = .ok (readOr p pair) :=
    fun pair hm => told pair (perm.mem_iff.mpr hm)
  obtain rfl : pairs.map (readOr p) = xs :=
    Except.ok.inj ((Outcome.mapM_eq_ok_map told).symm.trans hx)
  have alike : (ofParameters p (pairs.map (readOr p))).Alike
      (ofParameters p (others.map (readOr p))) := by
    refine ofParameters_alike p (perm.map _) ?_ fun relation => ?_
    · have modifying {pair} (h : Parameter.read p pair = .ok (readOr p pair)) :
          ((topClause? ∘ readOr p) pair).any Clause.modifies = modifiesRows pair :=
        (any_modifies_of_read h).1
      rw [List.filterMap_map, List.filterMap_map,
        filter_filterMap_eq fun pair hm => modifying (told pair hm),
        filter_filterMap_eq fun pair hm => modifying (told' pair hm), same.rows]
    · have modifying {pair} (h : Parameter.read p pair = .ok (readOr p pair)) :
          ((clauseFor? relation ∘ readOr p) pair).any Clause.modifies =
            modifiesRelation p relation pair :=
        (any_modifies_of_read h).2 relation
      rw [List.filterMap_map, List.filterMap_map,
        filter_filterMap_eq fun pair hm => modifying (told pair hm),
        filter_filterMap_eq fun pair hm => modifying (told' pair hm), same.relations p hp relation]
  obtain ⟨r, hr, alike'⟩ := withHeader_alike alike hq
  exact ⟨r, read_eq_ok_iff.mpr ⟨p, _, same.readProjection_eq.symm.trans hp,
    Outcome.mapM_eq_ok_map told', hr⟩, alike'⟩

/-- The order of parameters does not count beyond select lists and the modifiers of each scope. -/
theorem answer_of_perm (perm : pairs.Perm others) (same : SameModifiers pairs others)
    (header : Option String) {rows : List Value} (objects : ∀ row ∈ rows, row.isObject = true) :
    ((∃ q, read pairs header = .ok q) ↔ ∃ r, read others header = .ok r) ∧
      ∀ a b, answer pairs header rows = .ok a → answer others header rows = .ok b → a = b := by
  refine ⟨⟨?_, ?_⟩, ?_⟩
  · rintro ⟨q, hq⟩
    obtain ⟨r, hr, -⟩ := read_of_perm perm same hq
    exact ⟨r, hr⟩
  · rintro ⟨r, hr⟩
    obtain ⟨q, hq, -⟩ := read_of_perm perm.symm same.symm hr
    exact ⟨q, hq⟩
  · intro a b ha hb
    obtain ⟨q, hq, hqa⟩ := answer_eq_ok_iff.mp ha
    obtain ⟨r, hr, hrb⟩ := answer_eq_ok_iff.mp hb
    obtain ⟨r', hr', alike⟩ := read_of_perm perm same hq
    cases hr.symm.trans hr'
    exact run_agree alike objects hqa hrb

def authoredRows : List Value :=
  [.object [("id", .ofInt 1), ("authors", .array [named "Bo", named "Ann"])],
    .object [("id", .ofInt 2), ("authors", .array [named "Ann", named "Ann"])]]
where
  named (name : String) : Value := .object [("name", .string name)]

def writersSelected : Projection :=
  ⟨false, [⟨"id", none⟩], [(⟨"authors", some "writers", false⟩, ⟨false, [⟨"name", none⟩], []⟩)]⟩

theorem projection_of_writers :
    Projection.read "id,writers:authors(name)".toList = .ok writersSelected := by
  have inner : Projection.read "name".toList = .ok ⟨false, [⟨"name", none⟩], []⟩ := by
    rw [Projection.read_eq]
    rfl
  have embed : Projection.readItem "writers:authors(name)".toList =
      .ok (.embed ⟨"authors", some "writers", false⟩ ⟨false, [⟨"name", none⟩], []⟩) :=
    congrArg (Except.map (Projection.Item.embed ⟨"authors", some "writers", false⟩)) inner
  have items : ["id".toList, "writers:authors(name)".toList].mapM Projection.readItem =
      .ok [.column ⟨"id", none⟩,
        .embed ⟨"authors", some "writers", false⟩ ⟨false, [⟨"name", none⟩], []⟩] := by
    rw [List.mapM_cons, List.mapM_cons, embed]
    rfl
  rw [Projection.read_eq]
  exact congrArg (Except.map Projection.ofItems) items

theorem answer_of_perm_of_early_filter :
    let late := [("select", "id,writers:authors(name)"), ("limit", "1"),
      ("writers.limit", "1"), ("writers.name", "eq.Ann")]
    let early := [("writers.name", "eq.Ann"), ("writers.limit", "1"),
      ("select", "id,writers:authors(name)"), ("limit", "1")]
    let writers : Value := .array [.object [("name", .string "Ann")]]
    late.Perm early ∧ SameModifiers late early ∧ (∃ q, read early none = .ok q) ∧
      ∀ found, answer early none authoredRows = .ok found →
        found = ⟨[.object [("id", .ofInt 1), ("writers", writers)]], 2, 0⟩ := by
  intro late early writers
  have perm : late.Perm early := by decide
  have same : SameModifiers late early := by
    refine ⟨by decide, by decide, fun p hp relation => ?_⟩
    have undotted {key value : String} (h : embeddedKey? key = none) :
        modifiesRelation p relation (key, value) = false := by
      rw [modifiesRelation, h]
    have filtering : modifiesRelation p relation ("writers.name", "eq.Ann") = false :=
      Bool.and_false _
    simp [late, early, List.filter_cons, filtering,
      undotted (show embeddedKey? "select" = none from rfl),
      undotted (show embeddedKey? "limit" = none from rfl)]
  have objects : ∀ row ∈ authoredRows, row.isObject = true := by
    intro row hr
    rcases List.mem_pair.mp hr with rfl | rfl <;> rfl
  have selected : readProjection late = .ok writersSelected :=
    congrArg (Except.bind · _) projection_of_writers
  have found_late : answer late none authoredRows =
      .ok ⟨[.object [("id", .ofInt 1), ("writers", writers)]], 2, 0⟩ := by
    have parameters : late.mapM (Parameter.read writersSelected) = .ok
        [.silent, .top (.limit 1), .embedded "authors" (.limit 1),
          .embedded "authors" (.filter (.condition ⟨"name", "Ann", .equals "Ann"⟩))] := rfl
    have read_late : read late none = .ok _ :=
      read_eq_ok_iff.mpr ⟨writersSelected, _, selected, parameters, rfl⟩
    exact answer_eq_ok_iff.mpr ⟨_, read_late, rfl⟩
  obtain ⟨q, read_late, -⟩ := answer_eq_ok_iff.mp found_late
  obtain ⟨accepted, agree⟩ := answer_of_perm perm same none objects
  refine ⟨perm, same, accepted.mp ⟨q, read_late⟩, fun found h => ?_⟩
  exact (agree _ found found_late h).symm

end Query

end TableServer
