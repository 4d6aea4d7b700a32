import TableServer.Proofs.Table.Repetition

/-! Failed writes. A write checks its payload and decides every row before it changes anything, so a
write that fails leaves the store as it was. An update finds nothing exactly when it may run and its
predicate decides against every row. -/
namespace TableServer

open RowPredicate

theorem Table.decide_eq_error_iff {p : RowPredicate} {table : Table} {fault : Fault} :
    table.decide p = .error fault ↔ ∃ front row rest, table = front ++ row :: rest ∧
      DecidesAll p front ∧ p row = .error fault := by
  induction table with
  | nil => simp [decide]
  | cons row rest ih =>
      rw [decide]
      cases hp : p row with
      | error first =>
          constructor
          · intro h
            cases h
            exact ⟨[], row, rest, rfl, fun _ hr => absurd hr List.not_mem_nil, hp⟩
          · rintro ⟨front, other, behind, split, decided, failed⟩
            cases front with
            | nil =>
                cases split
                cases hp.symm.trans failed
                rfl
            | cons head front =>
                cases split
                cases hp.symm.trans (decided row List.mem_cons_self)
      | ok b =>
          rw [Outcome.map_eq_error_iff, ih]
          constructor
          · rintro ⟨front, other, behind, rfl, decided, failed⟩
            refine ⟨row :: front, other, behind, rfl, ?_, failed⟩
            exact List.forall_mem_cons.mpr ⟨by rw [chooses_of_eq hp, hp], decided⟩
          · rintro ⟨front, other, behind, split, decided, failed⟩
            cases front with
            | nil =>
                cases split
                cases hp.symm.trans failed
            | cons head front =>
                cases split
                exact ⟨front, other, behind, rfl, (List.forall_mem_cons.mp decided).2, failed⟩

namespace Store

variable {s : Store} {name : String} {payload : Value} {predicate : Option RowPredicate}
  {e : Failure}

theorem insert_failed (h : (s.insert name payload).1 = .error e) :
    (s.insert name payload).2 = s := by
  unfold insert at h ⊢
  split at h
  · rfl
  · cases h

theorem delete_failed (h : (s.delete name predicate).1 = .error e) :
    (s.delete name predicate).2 = s := by
  unfold delete at h ⊢
  split at h
  · rfl
  · split at h
    · rfl
    · split at h <;> cases h

theorem upsert_failed {ignore : Bool} (objects : ∀ row ∈ s.rows name, row.isObject = true)
    (h : (s.upsert name payload ignore).1 = .error e) : (s.upsert name payload ignore).2 = s := by
  unfold upsert at h ⊢
  split at h
  · rfl
  · rename_i rows _
    obtain ⟨⟨positions, done⟩, -⟩ := Table.upsertRows_objects ignore rows objects
    dsimp only at h
    rw [done] at h
    cases h

/-- Why an update fails: its patch is no object, it has no predicate, the predicate fails on a row, or
it decides against every row. -/
inductive UpdateFails (s : Store) (name : String) :
    Option RowPredicate → Value → Failure → Prop where
  | patch {predicate : Option RowPredicate} {payload : Value} {e : Failure} :
      patchOf payload = .error e → UpdateFails s name predicate payload e
  | unfiltered (patch : Members) : UpdateFails s name none (.object patch) updateNeedsFilter
  | undecided (patch : Members) {p : RowPredicate} {fault : Fault} :
      (s.rows name).decide p = .error fault →
      UpdateFails s name (some p) (.object patch) (.fault fault)
  | unmatched (patch : Members) {p : RowPredicate} :
      (∀ row ∈ s.rows name, p row = .ok false) →
      UpdateFails s name (some p) (.object patch) (nothingMatched name)

theorem eq_object_of_patchOf {patch : Members} (h : patchOf payload = .ok patch) :
    payload = .object patch := by
  cases payload <;> cases h
  rfl

theorem kind_of_patchOf (h : patchOf payload = .error e) :
    ∃ refusal : ServiceError, e = .service refusal ∧ refusal.kind = .validation := by
  cases payload <;> cases h
  all_goals exact ⟨_, rfl, rfl⟩

theorem decidesAll_and_filter_eq_nil_iff {p : RowPredicate} {table : Table} :
    DecidesAll p table ∧ table.filter (chooses p) = [] ↔ ∀ row ∈ table, p row = .ok false := by
  rw [List.filter_eq_nil_iff]
  constructor
  · rintro ⟨decided, empty⟩ row hr
    rw [decided row hr, Bool.of_not_eq_true (empty row hr)]
  · intro against
    refine ⟨fun row hr => ?_, fun row hr => ?_⟩
    · rw [chooses_of_eq (against row hr), against row hr]
    · simp [chooses_of_eq (against row hr)]

theorem update_outcome (objects : ∀ row ∈ s.rows name, row.isObject = true) (payload : Value)
    (predicate : Option RowPredicate) :
    (∃ e, s.update name predicate payload = (.error e, s) ∧ s.UpdateFails name predicate payload e) ∨
      ∃ positions left, s.update name predicate payload = (.ok positions, left) := by
  unfold update
  cases hp : patchOf payload with
  | error e => exact .inl ⟨e, rfl, .patch hp⟩
  | ok patch =>
      obtain rfl := eq_object_of_patchOf hp
      cases predicate with
      | none => exact .inl ⟨_, rfl, .unfiltered patch⟩
      | some p =>
          cases hd : (s.rows name).decide p with
          | error fault => exact .inl ⟨_, by simp [hd], .undecided patch hd⟩
          | ok decisions =>
              obtain ⟨decided, rfl⟩ := Table.decide_eq_ok_iff.mp hd
              simp only [hd, Table.patchAll_choice patch (chooses p) objects,
                Table.positionsFrom_isEmpty, List.isEmpty_iff]
              split
              · rename_i empty
                refine .inl ⟨_, rfl, .unmatched patch ?_⟩
                exact decidesAll_and_filter_eq_nil_iff.mp ⟨decided, empty⟩
              · exact .inr ⟨_, _, rfl⟩

theorem update_failed (objects : ∀ row ∈ s.rows name, row.isObject = true)
    (h : (s.update name predicate payload).1 = .error e) :
    (s.update name predicate payload).2 = s ∧ s.UpdateFails name predicate payload e := by
  rcases update_outcome objects payload predicate with ⟨e', run, fails⟩ | ⟨positions, left, run⟩
  · rw [run] at h ⊢
    cases h
    exact ⟨rfl, fails⟩
  · rw [run] at h
    cases h

theorem failed_of_undecided {p : RowPredicate} {front rest : Table} {row : Value} {fault : Fault}
    (split : s.rows name = front ++ row :: rest) (decided : DecidesAll p front)
    (failed : p row = .error fault) :
    s.delete name (some p) = (.error (.fault fault), s) ∧
      ∀ patch, s.update name (some p) (.object patch) = (.error (.fault fault), s) := by
  have undecided : (s.rows name).decide p = .error fault :=
    Table.decide_eq_error_iff.mpr ⟨front, row, rest, split, decided, failed⟩
  exact ⟨by rw [delete, undecided], fun patch => by simp only [update, patchOf, undecided]⟩

/-- A write to a table of objects that fails leaves the store as it was, with the same tables. A
predicate that fails on a row fails the deletion and the update with that fault, whatever it decided
before. An update finds nothing exactly when its patch is an object, it has a predicate, and that one
decides against every row. -/
theorem store_of_failed_write (objects : ∀ row ∈ s.rows name, row.isObject = true)
    (payload : Value) (predicate : Option RowPredicate) (ignore : Bool) :
    (∀ e, (s.insert name payload).1 = .error e → (s.insert name payload).2 = s) ∧
    (∀ e, (s.upsert name payload ignore).1 = .error e → (s.upsert name payload ignore).2 = s) ∧
    (∀ e, (s.update name predicate payload).1 = .error e →
      (s.update name predicate payload).2 = s) ∧
    (∀ e, (s.delete name predicate).1 = .error e → (s.delete name predicate).2 = s) ∧
    (∀ p front row rest fault, predicate = some p → s.rows name = front ++ row :: rest →
      DecidesAll p front → p row = .error fault →
        s.delete name predicate = (.error (.fault fault), s) ∧
        ∀ patch, s.update name predicate (.object patch) = (.error (.fault fault), s)) ∧
    ((∃ refusal : ServiceError, (s.update name predicate payload).1 = .error (.service refusal) ∧
        refusal.kind = .notFound) ↔
      ∃ patch p, payload = .object patch ∧ predicate = some p ∧
        ∀ row ∈ s.rows name, p row = .ok false) := by
  refine ⟨fun e h => insert_failed h, fun e h => upsert_failed objects h,
    fun e h => (update_failed objects h).1, fun e h => delete_failed h, ?_, ?_, ?_⟩
  · rintro p front row rest fault rfl split decided failed
    exact failed_of_undecided split decided failed
  · rintro ⟨refusal, h, kind⟩
    generalize told : Failure.service refusal = e at h
    cases (update_failed objects h).2 with
    | patch refused =>
        obtain ⟨other, same, kind'⟩ := kind_of_patchOf refused
        cases told.trans same
        cases kind.symm.trans kind'
    | unfiltered patch =>
        cases told
        cases kind
    | undecided patch failed => cases told
    | unmatched patch against => exact ⟨patch, _, rfl, rfl, against⟩
  · rintro ⟨patch, p, rfl, rfl, against⟩
    obtain ⟨decided, empty⟩ := decidesAll_and_filter_eq_nil_iff.mpr against
    exact ⟨_, congrArg Prod.fst (update_of_no_choice decided empty patch), rfl⟩

def taggedPosts : Store :=
  ⟨[("posts", [.object [("id", .ofInt 1)],
    .object [("id", .ofInt 2), ("tags", .array [.string "a"])]])]⟩

def misspeltStep : RowPredicate :=
  (Filter.condition ⟨"tags->--1", "a", .differs "a"⟩).holds

theorem store_of_misspelt_writes :
    let fault : Fault := .integer .notInteger "--1".toList
    (taggedPosts.delete "posts" (some misspeltStep)).1 = .error (.fault fault) ∧
      (taggedPosts.delete "posts" (some misspeltStep)).2 = taggedPosts ∧
      taggedPosts.update "posts" (some misspeltStep) (.object [("id", .ofInt 3)]) =
        (.error (.fault fault), taggedPosts) := by
  intro fault
  have objects : ∀ row ∈ taggedPosts.rows "posts", row.isObject = true := by
    intro row hr
    rcases List.mem_pair.mp hr with rfl | rfl <;> rfl
  obtain ⟨-, -, -, deletion, undecided, -⟩ :=
    store_of_failed_write objects (.object [("id", .ofInt 3)]) (some misspeltStep) false
  have decided : DecidesAll misspeltStep [.object [("id", .ofInt 1)]] := by
    intro row hr
    rw [List.mem_singleton.mp hr]
    rfl
  obtain ⟨deleted, updated⟩ := undecided misspeltStep _ _ _ fault rfl rfl decided rfl
  exact ⟨congrArg Prod.fst deleted, deletion _ (congrArg Prod.fst deleted), updated _⟩

end Store

end TableServer
