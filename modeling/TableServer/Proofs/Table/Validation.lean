import TableServer.Proofs.Table.Failures

/-! What a write is refused for. A payload is a row or a list of at least one row, and whatever else
it is, an insertion and an upsert refuse it. An update wants an object and a predicate, a deletion a
predicate. An error of any other kind comes from the rows of the table, and only after these
checks. -/
namespace TableServer

/-- The failures that tell a caller what is wrong with what was given. -/
def Failure.IsValidation (e : Failure) : Prop :=
  ∃ refusal : ServiceError, e = .service refusal ∧ refusal.kind = .validation

/-- A check fails with a validation error exactly under a condition. -/
def Validates {α : Type} (amiss : Prop) (checked : Outcome α) : Prop :=
  match checked with
  | .ok _ => ¬ amiss
  | .error e => amiss ∧ e.IsValidation

/-- The payloads that are neither a row nor a list of at least one row. -/
inductive Unfit : Value → Prop where
  | null : Unfit .null
  | bool (b : Bool) : Unfit (.bool b)
  | number (n : Number) : Unfit (.number n)
  | string (s : Codes) : Unfit (.string s)
  | empty : Unfit (.array [])
  | item {items : List Value} {item : Value} :
      item ∈ items → item.isObject = false → Unfit (.array items)

/-- The patches that change something: objects with at least one member. -/
def IsPatch (payload : Value) : Prop :=
  ∃ member members, payload = .object (member :: members)

@[simp] theorem Value.isObject_object (members : Members) :
    (Value.object members).isObject = true :=
  rfl

namespace Validates

variable {α β : Type} {amiss : Prop} {checked : Outcome α}

theorem map (h : Validates amiss checked) (f : α → β) : Validates amiss (checked.map f) := by
  cases checked <;> exact h

theorem congr {other : Prop} (h : Validates amiss checked) (same : amiss ↔ other) :
    Validates other checked := by
  rwa [← propext same]

end Validates

namespace Table

theorem objectsOf_validates (items : List Value) :
    Validates (∃ item ∈ items, item.isObject = false) (objectsOf items) := by
  induction items with
  | nil => simp [Validates, objectsOf]
  | cons item rest ih =>
      cases item with
      | object members =>
          refine (ih.map (members :: ·)).congr ?_
          simp
      | _ => exact ⟨⟨_, List.mem_cons_self, rfl⟩, _, rfl, rfl⟩

theorem payloadRows_validates (payload : Value) :
    Validates (Unfit payload) (payloadRows payload) := by
  cases payload with
  | null => exact ⟨.null, _, rfl, rfl⟩
  | bool b => exact ⟨.bool b, _, rfl, rfl⟩
  | number n => exact ⟨.number n, _, rfl, rfl⟩
  | string s => exact ⟨.string s, _, rfl, rfl⟩
  | object members => exact nofun
  | array items =>
      cases items with
      | nil => exact ⟨.empty, _, rfl, rfl⟩
      | cons head rest =>
          refine (objectsOf_validates (head :: rest)).congr ⟨?_, ?_⟩
          · rintro ⟨item, member, scalar⟩
            exact .item member scalar
          · rintro (_ | _ | _ | _ | _ | ⟨member, scalar⟩)
            exact ⟨_, member, scalar⟩

end Table

namespace Store

variable {s : Store} {name : String} {payload : Value} {predicate : Option RowPredicate}

theorem patchOf_validates (payload : Value) :
    Validates (payload.isObject = false) (patchOf payload) := by
  cases payload with
  | object members => simp [Validates, patchOf]
  | _ => exact ⟨rfl, _, rfl, rfl⟩

def Refused {α : Type} (effect : Effect α) : Prop :=
  ∃ e, effect.1 = .error e ∧ e.IsValidation

theorem refused_iff {α β : Type} {amiss : Prop} {checked : Outcome α} {effect : Effect β}
    (check : Validates amiss checked) (failed : ∀ e, checked = .error e → effect.1 = .error e)
    (passed : ∀ a, checked = .ok a → ¬ Refused effect) : Refused effect ↔ amiss := by
  cases hc : checked with
  | error e =>
      rw [hc] at check
      exact iff_of_true ⟨e, failed e hc, check.2⟩ check.1
  | ok a =>
      rw [hc] at check
      exact iff_of_false (passed a hc) check

theorem not_isValidation_fault (fault : Fault) : ¬ (Failure.fault fault).IsValidation := by
  rintro ⟨refusal, same, -⟩
  cases same

theorem not_isValidation_nothingMatched : ¬ (nothingMatched name).IsValidation := by
  rintro ⟨refusal, same, kind⟩
  cases same
  cases kind

theorem insert_refused_iff : Refused (s.insert name payload) ↔ Unfit payload := by
  refine refused_iff (Table.payloadRows_validates payload) (fun e hp => ?_) ?_
  · rw [insert, hp]
  · rintro rows hp ⟨e, failed, -⟩
    rw [insert, hp] at failed
    cases failed

theorem upsert_refused_iff {ignore : Bool} :
    Refused (s.upsert name payload ignore) ↔ Unfit payload := by
  refine refused_iff (Table.payloadRows_validates payload) (fun e hp => ?_) ?_
  · rw [upsert, hp]
  · rintro rows hp ⟨e, failed, refused⟩
    rw [upsert, hp] at failed
    obtain ⟨fault, -, rfl⟩ := Outcome.mapError_eq_error_iff.mp failed
    exact not_isValidation_fault fault refused

/-- Past its checks an update can only fail at a row, or for having found none. -/
theorem not_refused_update (p : RowPredicate) (patch : Members) :
    ¬ Refused (s.update name (some p) (.object patch)) := by
  rintro ⟨e, failed, refused⟩
  simp only [update, patchOf] at failed
  split at failed
  · cases failed
    exact not_isValidation_fault _ refused
  · split at failed
    · cases failed
      exact not_isValidation_nothingMatched refused
    · obtain ⟨fault, -, rfl⟩ :=
        Outcome.mapError_eq_error_iff.mp (Outcome.map_eq_error_iff.mp failed)
      exact not_isValidation_fault fault refused

theorem update_refused_iff :
    Refused (s.update name predicate payload) ↔ payload.isObject = false ∨ predicate = none := by
  cases predicate with
  | none =>
      refine iff_of_true ?_ (.inr rfl)
      cases hp : patchOf payload with
      | error e => exact ⟨e, by simp only [update, hp], kind_of_patchOf hp⟩
      | ok patch => exact ⟨updateNeedsFilter, by simp only [update, hp], _, rfl, rfl⟩
  | some p =>
      rw [or_iff_left (by simp : some p ≠ none)]
      refine refused_iff (patchOf_validates payload) (fun e hp => ?_) fun patch hp => ?_
      · simp only [update, hp]
      · obtain rfl := eq_object_of_patchOf hp
        exact not_refused_update p patch

theorem delete_refused_iff : Refused (s.delete name predicate) ↔ predicate = none := by
  cases predicate with
  | none => exact iff_of_true ⟨deleteNeedsFilter, rfl, _, rfl, rfl⟩ rfl
  | some p =>
      refine iff_of_false ?_ nofun
      rintro ⟨e, failed, refused⟩
      simp only [delete] at failed
      split at failed
      · cases failed
        exact not_isValidation_fault _ refused
      · split at failed <;> cases failed

theorem isPatch_iff : IsPatch payload ↔ payload.isObject = true ∧ payload ≠ .object [] := by
  cases payload with
  | object members => cases members <;> simp [IsPatch]
  | _ => simp [IsPatch, Value.isObject, Value.members?]

/-- Insertions and upserts are refused exactly for a payload that is null, a scalar, an empty list,
or a list with an item that is no object, and deletions exactly for want of a predicate. Updates are
refused exactly for a patch that is no object or for want of a predicate; so they keep the rule that
a patch has members, except that the object without members passes under a predicate. -/
theorem refused_writes (s : Store) (name : String) (payload : Value)
    (predicate : Option RowPredicate) (ignore : Bool) :
    (Refused (s.insert name payload) ↔ Unfit payload) ∧
    (Refused (s.upsert name payload ignore) ↔ Unfit payload) ∧
    (Refused (s.update name predicate payload) ↔ payload.isObject = false ∨ predicate = none) ∧
    ((Refused (s.update name predicate payload) ↔ ¬ IsPatch payload ∨ predicate = none) ↔
      payload ≠ .object [] ∨ predicate = none) ∧
    (Refused (s.delete name predicate) ↔ predicate = none) := by
  refine ⟨insert_refused_iff, upsert_refused_iff, update_refused_iff, ?_, delete_refused_iff⟩
  rw [update_refused_iff, isPatch_iff, ← Bool.not_eq_true]
  by_cases empty : payload = .object []
  · subst empty
    simp
  · simp [empty]

/-- By a predicate that takes every row, the object without members updates all rows. -/
theorem update_without_members_accepted :
    let everyRow : Option RowPredicate := some fun _ => .ok true
    (taggedPosts.update "posts" everyRow (.object [])).1 = .ok [0, 1] ∧
      ¬ (Refused (taggedPosts.update "posts" everyRow (.object [])) ↔
        ¬ IsPatch (.object []) ∨ everyRow = none) := by
  intro everyRow
  have accepted : ¬ Refused (taggedPosts.update "posts" everyRow (.object [])) :=
    not_refused_update _ []
  exact ⟨rfl, by simp [accepted, isPatch_iff]⟩

end Store

end TableServer
