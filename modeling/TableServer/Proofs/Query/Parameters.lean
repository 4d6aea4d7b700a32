import TableServer.Proofs.Outcome
import TableServer.Proofs.Text.Parts
import TableServer.Query.Reader

/-! Parameters of a query, by their keys. A key says what its pair is read as: an order, a window or
a filter, of the rows or of a referenced table. A key of a filter of the rows adds one filter and
leaves all else as it was. -/
namespace TableServer

def modifierKeys : List String :=
  ["order", "limit", "offset", "range"]

theorem contains_eq_false_of_subset {keys more : List String} (within : keys ⊆ more) {key : String}
    (h : more.contains key = false) : keys.contains key = false := by
  simp only [← Bool.not_eq_true, List.contains_iff_mem] at h ⊢
  exact fun hk => h (within hk)

theorem modifierKeys_subset : modifierKeys ⊆ reservedKeys := by
  decide

/-- Clauses that order rows or tell a window of them, by their keys. -/
inductive Clause.ToldBy : Clause → String → Prop where
  | order (terms : List OrderTerm) : ToldBy (.order terms) "order"
  | limit (n : Nat) : ToldBy (.limit n) "limit"
  | offset (n : Nat) : ToldBy (.offset n) "offset"
  | range (w : Window) : ToldBy (.window w) "range"

theorem readModifier?_eq_none_iff {key modifier : String} {value : List Char} :
    readModifier? key modifier value = none ↔ modifierKeys.contains modifier = false := by
  unfold readModifier?
  split
  all_goals simp_all [modifierKeys]

theorem toldBy_of_readModifier? {key modifier : String} {value : List Char}
    {clause : Outcome Clause} {c : Clause} (h : readModifier? key modifier value = some clause)
    (hc : clause = .ok c) : c.ToldBy modifier := by
  unfold readModifier? at h
  split at h
  all_goals cases h
  all_goals
    obtain ⟨v, -, rfl⟩ := Outcome.map_eq_ok_iff.mp hc
    constructor

namespace Parameter

def embeddedKey? (key : String) : Option (List Char × List Char) :=
  if reservedKeys.contains key || Filter.isLogicKey key then none else Text.cut? '.' key.toList

theorem not_reserved_of_embeddedKey? {key : String} {parts : List Char × List Char}
    (h : embeddedKey? key = some parts) : reservedKeys.contains key = false := by
  unfold embeddedKey? at h
  split at h
  · cases h
  · rename_i plain
    exact (Bool.or_eq_false_iff.mp (Bool.of_not_eq_true plain)).1

/-- What a pair may be read as, by its key. -/
inductive ReadAs (p : Projection) (key : String) : Parameter → Prop where
  | silent : modifierKeys.contains key = false → embeddedKey? key = none → ReadAs p key .silent
  | modifier {c : Clause} : c.ToldBy key → embeddedKey? key = none → ReadAs p key (.top c)
  | filter (f : Filter) : reservedKeys.contains key = false → embeddedKey? key = none →
      ReadAs p key (.top (.filter f))
  | embeddedModifier {name rest : List Char} {c : Clause} : embeddedKey? key = some (name, rest) →
      c.ToldBy (String.ofList rest) →
      ReadAs p key (.embedded (p.relationFor (String.ofList name)) c)
  | embeddedFilter {name rest : List Char} (f : Filter) : embeddedKey? key = some (name, rest) →
      modifierKeys.contains (String.ofList rest) = false →
      ReadAs p key (.embedded (p.relationFor (String.ofList name)) (.filter f))

theorem readAs_of_read {p : Projection} {pair : String × String} {x : Parameter}
    (h : read p pair = .ok x) : ReadAs p pair.1 x := by
  unfold read at h
  dsimp only at h
  split at h
  · rename_i reserved
    have own : embeddedKey? pair.1 = none := by
      rw [embeddedKey?, reserved]
      rfl
    split at h
    · rename_i clause told
      obtain ⟨c, hc, rfl⟩ := Outcome.map_eq_ok_iff.mp h
      exact .modifier (toldBy_of_readModifier? told hc) own
    · rename_i untold
      cases h
      exact .silent (readModifier?_eq_none_iff.mp untold) own
  · rename_i plain
    have free : reservedKeys.contains pair.1 = false := Bool.of_not_eq_true plain
    split at h
    · rename_i logic
      obtain ⟨f, -, rfl⟩ := Outcome.map_eq_ok_iff.mp h
      exact .filter f free (by simp [embeddedKey?, logic])
    · rename_i column
      have parts : embeddedKey? pair.1 = Text.cut? '.' pair.1.toList := by
        rw [embeddedKey?, free, Bool.of_not_eq_true column]
        rfl
      split at h
      · rename_i undotted
        obtain ⟨f, -, rfl⟩ := Outcome.map_eq_ok_iff.mp h
        exact .filter f free (parts.trans undotted)
      · rename_i name rest dotted
        split at h
        · rename_i clause told
          obtain ⟨c, hc, rfl⟩ := Outcome.map_eq_ok_iff.mp h
          exact .embeddedModifier (parts.trans dotted) (toldBy_of_readModifier? told hc)
        · rename_i untold
          obtain ⟨f, -, rfl⟩ := Outcome.map_eq_ok_iff.mp h
          exact .embeddedFilter f (parts.trans dotted) (readModifier?_eq_none_iff.mp untold)

/-- Keys of filters of the rows themselves: logic keys, and columns without a dot. -/
def FiltersRows (key : String) : Prop :=
  key ∉ reservedKeys ∧ (Filter.isLogicKey key = true ∨ '.' ∉ key.toList)

theorem read_filter {pair : String × String} (h : FiltersRows pair.1) (p : Projection) :
    read p pair = (readFilter pair.1.toList pair.2.toList).map (.top ∘ .filter) := by
  have plain : reservedKeys.contains pair.1 = false := by simpa using h.1
  simp only [read, plain, readFilter]
  cases hk : Filter.isLogicKey pair.1 with
  | true => simp [show (Filter.logicKey? pair.1.toList).isSome = true from hk]
  | false =>
      have column : '.' ∉ pair.1.toList := by simpa [hk] using h.2
      simp [show (Filter.logicKey? pair.1.toList).isSome = false from hk, Text.cut?_eq_none column]

end Parameter

namespace Query

theorem readProjection_filter {keeps : String × String → Bool}
    (selects : ∀ pair, pair.1 = "select" → keeps pair = true) (pairs : List (String × String)) :
    readProjection (pairs.filter keeps) = readProjection pairs := by
  unfold readProjection
  generalize Projection.everything = start
  induction pairs generalizing start with
  | nil => rfl
  | cons pair rest ih =>
      cases hk : keeps pair with
      | true =>
          rw [List.filter_cons_of_pos hk, List.foldlM_cons, List.foldlM_cons]
          exact congrArg _ (funext ih)
      | false =>
          have unselected : pair.1 ≠ "select" := fun he => by simp [selects pair he] at hk
          rw [List.filter_cons_of_neg (by simp [hk]), List.foldlM_cons, if_neg unselected]
          exact ih start

theorem readProjection_of_no_select {pairs : List (String × String)}
    (h : ∀ pair ∈ pairs, pair.1 ≠ "select") : readProjection pairs = .ok .everything := by
  have selects (pair : String × String) : pair.1 = "select" → decide (pair.1 = "select") = true :=
    decide_eq_true
  have none_left : pairs.filter (fun pair => decide (pair.1 = "select")) = [] :=
    List.filter_eq_nil_iff.mpr fun pair hm => by simpa using h pair hm
  rw [← readProjection_filter selects, none_left]
  rfl

theorem ofParameters_filters (p : Projection) (filters : List Filter) :
    ofParameters p (filters.map (.top ∘ .filter)) = ⟨⟨filters, [], .whole⟩, [], p⟩ := by
  suffices h : ∀ before : List Filter,
      (filters.map (Parameter.top ∘ Clause.filter)).foldl add ⟨⟨before, [], .whole⟩, [], p⟩ =
        ⟨⟨before ++ filters, [], .whole⟩, [], p⟩ from h []
  induction filters with
  | nil => simp
  | cons f rest ih =>
      intro before
      simp only [List.map_cons, List.foldl_cons]
      exact (ih (before ++ [f])).trans (by simp)

theorem read_eq_ok_iff {pairs : List (String × String)} {header : Option String} {q : Query} :
    read pairs header = .ok q ↔ ∃ p parameters, readProjection pairs = .ok p ∧
      pairs.mapM (Parameter.read p) = .ok parameters ∧
        withHeader header (ofParameters p parameters) = .ok q := by
  simp only [read, bind, Outcome.bind_eq_ok_iff, exists_and_left]

theorem read_filters {pairs : List (String × String)}
    (plain : ∀ pair ∈ pairs, Parameter.FiltersRows pair.1) {q : Query}
    (h : read pairs none = .ok q) :
    ∃ filters, filters.length = pairs.length ∧ q = .ofScope ⟨filters, [], .whole⟩ := by
  obtain ⟨p, parameters, hp, hr, hq⟩ := read_eq_ok_iff.mp h
  have unselected : ∀ pair ∈ pairs, pair.1 ≠ "select" := by
    intro pair hm he
    exact (plain pair hm).1 (by simp [he, reservedKeys])
  rw [readProjection_of_no_select unselected] at hp
  cases hp
  have filtered : ∃ filters : List Filter, parameters = filters.map (.top ∘ .filter) := by
    clear hq h unselected
    induction pairs generalizing parameters with
    | nil =>
        cases hr
        exact ⟨[], rfl⟩
    | cons pair rest ih =>
        obtain ⟨parameter, others, head, tail, rfl⟩ := Outcome.mapM_cons_eq_ok_iff.mp hr
        rw [Parameter.read_filter (plain pair (by simp))] at head
        obtain ⟨f, -, rfl⟩ := Outcome.map_eq_ok_iff.mp head
        obtain ⟨filters, rfl⟩ := ih (fun other ho => plain other (by simp [ho])) others tail
        exact ⟨f :: filters, rfl⟩
  obtain ⟨filters, rfl⟩ := filtered
  rw [ofParameters_filters] at hq
  cases hq
  exact ⟨filters, by simpa using Outcome.length_of_mapM hr, rfl⟩

end Query

end TableServer
