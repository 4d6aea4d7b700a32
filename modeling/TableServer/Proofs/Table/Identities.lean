import TableServer.Proofs.Table.Repetition
import TableServer.Table.Session

/-! Identities of rows. Where no two rows of a table have equal identities, none come to have them
by upserts, by deletions, or by updates that write no identity. An upsert appends a row whose
identity is new and merges any other onto the one row that has it. That row takes the identity of
the merged one, which may be written otherwise, as true and 1 are, but is equal to its own. -/
namespace TableServer

namespace Value

theorem isNull_eq_of_same {a b : Value} (h : a.same b = true) : a.isNull = b.isNull := by
  cases a <;> cases b <;> simp_all [same, sameNumber, asNumber?, isNull]

theorem identity_patched_of_absent {patch : Members}
    (absent : Entries.find? ↑Table.identityKey patch = none) (row : Value) :
    (row.patched patch).identity = row.identity := by
  cases row with
  | object members =>
      simp only [patched, identity, Table.identityOf, Entries.find?_merge_of_absent absent]
  | _ => rfl

end Value

namespace Table

/-- Rows that do not have equal identities. Null is no identity. -/
def Apart (a b : Value) : Prop :=
  a.identity.isNull = false → a.identity.same b.identity = false

instance : DecidableRel Apart := fun a b =>
  inferInstanceAs (Decidable (a.identity.isNull = false → a.identity.same b.identity = false))

/-- A table of objects of which no two have equal identities. What is an object in an identity names
every member once. -/
structure Keyed (table : Table) : Prop where
  objects : ∀ row ∈ table, row.isObject = true
  tidy : ∀ row ∈ table, row.identity.Tidy
  apart : table.Pairwise Apart

def Holds (table : Table) (identity : Value) : Prop :=
  ∃ row ∈ table, row.identity.same identity = true

def HoldsOnce (table : Table) (identity : Value) : Prop :=
  ∃! i : Nat, ∃ row : Value, table[i]? = some row ∧ row.identity.same identity = true

variable {table left front rest : Table} {row : Members} {a b old new identity : Value}

section Apart

theorem Apart.replace_left (h : Apart old b) (tidy : new.identity.Tidy)
    (same : old.identity.same new.identity = true) : Apart new b := by
  intro present
  rw [← Value.isNull_eq_of_same same] at present
  refine Bool.eq_false_iff.mpr fun alike => ?_
  have through := Value.same_trans tidy same alike
  rw [h present] at through
  cases through

theorem Apart.replace_right (h : Apart a old) (tidy : old.identity.Tidy)
    (tidy' : new.identity.Tidy) (same : old.identity.same new.identity = true) : Apart a new := by
  intro present
  refine Bool.eq_false_iff.mpr fun alike => ?_
  have through := Value.same_trans tidy' alike (Value.same_symm tidy tidy' same)
  rw [h present] at through
  cases through

end Apart

theorem exists_split {p : Value → Bool} {i : Nat} (found : table.findIdx? p = some i) :
    ∃ front old rest, table = front ++ old :: rest ∧ front.length = i ∧ p old = true := by
  obtain ⟨bound, here, -⟩ := List.findIdx?_eq_some_iff_getElem.mp found
  exact ⟨table.take i, table[i], table.drop (i + 1), by simp,
    List.length_take_of_le (Nat.le_of_lt bound), here⟩

namespace Keyed

section Positions

variable {i j : Nat}

theorem not_lt (keyed : table.Keyed) (tidy : identity.Tidy) (present : identity.isNull = false)
    (hi : table[i]? = some a) (hj : table[j]? = some b) (ha : a.identity.same identity = true)
    (hb : b.identity.same identity = true) : ¬i < j := by
  intro less
  obtain ⟨boundI, rfl⟩ := List.getElem?_eq_some_iff.mp hi
  obtain ⟨boundJ, rfl⟩ := List.getElem?_eq_some_iff.mp hj
  have apart := List.pairwise_iff_getElem.mp keyed.apart i j boundI boundJ less
  have turned := Value.same_symm (keyed.tidy _ (List.getElem_mem boundJ)) tidy hb
  have alike := Value.same_trans tidy ha turned
  rw [apart ((Value.isNull_eq_of_same ha).trans present)] at alike
  cases alike

theorem position_unique (keyed : table.Keyed) (tidy : identity.Tidy)
    (present : identity.isNull = false) (hi : table[i]? = some a) (hj : table[j]? = some b)
    (ha : a.identity.same identity = true) (hb : b.identity.same identity = true) : i = j := by
  have notBefore := keyed.not_lt tidy present hi hj ha hb
  have notBehind := keyed.not_lt tidy present hj hi hb ha
  omega

end Positions

theorem holdsOnce (keyed : table.Keyed) (tidy : identity.Tidy)
    (present : identity.isNull = false) (held : table.Holds identity) :
    table.HoldsOnce identity := by
  obtain ⟨row, member, same⟩ := held
  obtain ⟨i, hi⟩ := List.mem_iff_getElem?.mp member
  refine ⟨i, ⟨row, hi, same⟩, ?_⟩
  rintro j ⟨other, hj, same'⟩
  exact keyed.position_unique tidy present hj hi same' same

theorem filter (keyed : table.Keyed) (q : Value → Bool) : Keyed (table.filter q) :=
  ⟨fun row hr => keyed.objects row (List.mem_filter.mp hr).1,
    fun row hr => keyed.tidy row (List.mem_filter.mp hr).1, keyed.apart.filter q⟩

theorem map (keyed : table.Keyed) {change : Value → Value}
    (objects : ∀ row, row.isObject = true → (change row).isObject = true)
    (kept : ∀ row, (change row).identity = row.identity) : Keyed (table.map change) := by
  refine ⟨?_, ?_, List.pairwise_map.mpr (keyed.apart.imp ?_)⟩
  · intro row hr
    obtain ⟨old, ho, rfl⟩ := List.mem_map.mp hr
    exact objects old (keyed.objects old ho)
  · intro row hr
    obtain ⟨old, ho, rfl⟩ := List.mem_map.mp hr
    rw [kept]
    exact keyed.tidy old ho
  · intro a b apart
    rwa [Apart, kept, kept]

theorem append (keyed : table.Keyed) (tidy : (identityOf row).Tidy)
    (fresh : (identityOf row).isNull = false →
      ∀ old ∈ table, old.identity.same (identityOf row) = false) :
    Keyed (table ++ [.object row]) := by
  refine ⟨objects_append keyed.objects row, ?_, List.pairwise_append.mpr
    ⟨keyed.apart, List.pairwise_singleton _ _, ?_⟩⟩
  · intro other ho
    rcases List.mem_append.mp ho with ho | ho
    · exact keyed.tidy other ho
    · rwa [List.mem_singleton.mp ho]
  · intro old ho new hn present
    obtain rfl := List.mem_singleton.mp hn
    refine Bool.eq_false_iff.mpr fun alike => ?_
    have absent := fresh ((Value.isNull_eq_of_same alike).symm.trans present) old ho
    exact Bool.false_ne_true (absent.symm.trans alike)

theorem replace (keyed : Keyed (front ++ old :: rest)) (object : new.isObject = true)
    (tidy : new.identity.Tidy) (same : old.identity.same new.identity = true) :
    Keyed (front ++ new :: rest) := by
  obtain ⟨before, behind, between⟩ := List.pairwise_append.mp keyed.apart
  obtain ⟨next, after⟩ := List.pairwise_cons.mp behind
  have others {P : Value → Prop} (all : ∀ row ∈ front ++ old :: rest, P row) (here : P new) :
      ∀ row ∈ front ++ new :: rest, P row := by
    simp only [List.forall_mem_append, List.forall_mem_cons] at all ⊢
    exact ⟨all.1, here, all.2.2⟩
  refine ⟨others keyed.objects object, others keyed.tidy tidy, List.pairwise_append.mpr
    ⟨before, List.pairwise_cons.mpr ⟨fun b hb => (next b hb).replace_left tidy same, after⟩, ?_⟩⟩
  intro a ha b hb
  rcases List.mem_cons.mp hb with rfl | hb
  · exact (between a ha old (by simp)).replace_right (keyed.tidy old (by simp)) tidy same
  · exact between a ha b (List.mem_cons_of_mem _ hb)

end Keyed

theorem Holds.replace (held : Holds (front ++ old :: rest) identity) (tidy : old.identity.Tidy)
    (same : new.identity.same old.identity = true) : Holds (front ++ new :: rest) identity := by
  obtain ⟨row, member, alike⟩ := held
  rcases List.mem_append.mp member with hf | hr
  · exact ⟨row, List.mem_append_left _ hf, alike⟩
  rcases List.mem_cons.mp hr with rfl | hr
  · exact ⟨new, by simp, Value.same_trans tidy same alike⟩
  · exact ⟨row, by simp [hr], alike⟩

/-- What upserts leave of a keyed table: it stays one, and no identity is lost. -/
structure Grows (table left : Table) : Prop where
  keyed : left.Keyed
  held : ∀ identity, table.Holds identity → left.Holds identity

namespace Grows

theorem refl (keyed : table.Keyed) : Grows table table :=
  ⟨keyed, fun _ => id⟩

theorem trans {middle : Table} (first : Grows table middle) (second : Grows middle left) :
    Grows table left :=
  ⟨second.keyed, fun identity held => second.held identity (first.held identity held)⟩

theorem append (keyed : table.Keyed) (tidy : (identityOf row).Tidy)
    (fresh : (identityOf row).isNull = false →
      ∀ old ∈ table, old.identity.same (identityOf row) = false) :
    Grows table (table ++ [.object row]) := by
  refine ⟨keyed.append tidy fresh, ?_⟩
  rintro identity ⟨old, ho, alike⟩
  exact ⟨old, List.mem_append_left _ ho, alike⟩

theorem patchAt (keyed : table.Keyed) (tidy : (Value.object row).Tidy)
    (present : (identityOf row).isNull = false) {i : Nat}
    (found : table.findIdx? (fun old => old.identity.same (identityOf row)) = some i) :
    Grows table (Table.patchAt row i table) := by
  obtain ⟨front, old, rest, rfl, rfl, same⟩ := exists_split found
  have unique : (Entries.names row).Nodup := by
    cases tidy with
    | object unique _ => exact unique
  have object : old.isObject = true := keyed.objects old (by simp)
  have tidyOld : old.identity.Tidy := keyed.tidy old (by simp)
  have tidyNew : (identityOf row).Tidy := tidy.find? identityKey
  have named : (old.patched row).identity = identityOf row := identity_patched unique present object
  rw [patchAt_append]
  refine ⟨keyed.replace (Value.isObject_patched object row) ?_ ?_, fun identity held =>
    held.replace tidyOld ?_⟩
  · rwa [named]
  · rwa [named]
  · rw [named]
    exact Value.same_symm tidyOld tidyNew same

end Grows

/-- One row of an upsert. Its identity is held behind it, unless it is null or equals nothing. -/
theorem upsertRow_grows (keyed : table.Keyed) (tidy : (Value.object row).Tidy) (ignore : Bool) :
    ∃ i left, upsertRow ignore row table = .ok (i, left) ∧ Grows table left ∧
      (Identifies row → left.Holds (identityOf row)) := by
  have tidy' : (identityOf row).Tidy := tidy.find? identityKey
  have appended : Identifies row → Holds (table ++ [.object row]) (identityOf row) := fun h =>
    ⟨.object row, by simp, Value.same_refl h.free tidy'⟩
  cases present : (identityOf row).isNull with
  | true =>
      refine ⟨table.length, table ++ [.object row], ?_, .append keyed tidy' ?_, appended⟩
      · simp [upsertRow, findIdentity, present, Except.map]
      · simp [present]
  | false =>
      rw [upsertRow_eq keyed.objects present]
      cases found : table.findIdx? fun old => old.identity.same (identityOf row) with
      | none =>
          refine ⟨_, _, rfl, .append keyed tidy' fun _ => ?_, appended⟩
          simpa using List.findIdx?_eq_none_iff.mp found
      | some i =>
          have merged := Grows.patchAt keyed tidy present found
          obtain ⟨bound, same, -⟩ := List.findIdx?_eq_some_iff_getElem.mp found
          have before : table.Holds (identityOf row) := ⟨_, List.getElem_mem bound, same⟩
          cases ignore with
          | true => exact ⟨_, _, rfl, .refl keyed, fun _ => before⟩
          | false => exact ⟨_, _, rfl, merged, fun _ => merged.held _ before⟩

theorem upsertRows_grows {rows : List Members} (keyed : table.Keyed)
    (tidy : ∀ row ∈ rows, (Value.object row).Tidy) (ignore : Bool) :
    Grows table (upsertRows ignore rows table).2 ∧
      ∀ row ∈ rows, Identifies row → (upsertRows ignore rows table).2.Holds (identityOf row) := by
  induction rows generalizing table with
  | nil => exact ⟨.refl keyed, by simp⟩
  | cons row rest ih =>
      obtain ⟨first, others⟩ := List.forall_mem_cons.mp tidy
      obtain ⟨i, middle, run, grows, here⟩ := upsertRow_grows keyed first ignore
      obtain ⟨onwards, held⟩ := ih grows.keyed others
      simp only [upsertRows, run]
      refine ⟨grows.trans onwards, fun other ho identifies => ?_⟩
      rcases List.mem_cons.mp ho with rfl | ho
      · exact onwards.held _ (here identifies)
      · exact held other ho identifies

end Table

namespace Store

variable {s : Store} {name : String}

theorem upsert_keyed (keyed : (s.rows name).Keyed) {payload : Value} (tidy : payload.Tidy)
    (ignore : Bool) : ((s.upsert name payload ignore).2.rows name).Keyed := by
  unfold upsert
  cases hp : Table.payloadRows payload with
  | error e => exact keyed
  | ok rows =>
      simp only [rows_put_self]
      exact (Table.upsertRows_grows keyed (Table.tidy_of_payloadRows tidy hp) ignore).1.keyed

theorem holdsOnce_of_upsert (keyed : (s.rows name).Keyed) {payload : Value}
    (tidy : payload.Tidy) {rows : List Members}
    (accepted : Table.payloadRows payload = .ok rows) (ignore : Bool) {row : Members}
    (member : row ∈ rows) (identifies : Table.Identifies row) :
    ((s.upsert name payload ignore).2.rows name).HoldsOnce (Table.identityOf row) := by
  have tidies := Table.tidy_of_payloadRows tidy accepted
  obtain ⟨grows, held⟩ := Table.upsertRows_grows keyed tidies ignore
  have left : (s.upsert name payload ignore).2.rows name =
      (Table.upsertRows ignore rows (s.rows name)).2 := by
    simp only [upsert, accepted, rows_put_self]
  rw [left]
  exact grows.keyed.holdsOnce ((tidies row member).find? _) identifies.some
    (held row member identifies)

theorem update_keyed (keyed : (s.rows name).Keyed) {payload : Value}
    (silent : ∀ patch, patchOf payload = .ok patch →
      Entries.find? ↑Table.identityKey patch = none) (predicate : Option RowPredicate) :
    ((s.update name predicate payload).2.rows name).Keyed := by
  rcases update_cases keyed.objects payload predicate with same | ⟨patch, p, hp, -, left⟩
  · rwa [same]
  · rw [left, rows_put_self]
    refine keyed.map (fun row object => ?_) fun row => ?_
    · split
      · exact Value.isObject_patched object patch
      · exact object
    · split
      · exact Value.identity_patched_of_absent (silent patch hp) row
      · rfl

theorem delete_keyed (keyed : (s.rows name).Keyed) (predicate : Option RowPredicate) :
    ((s.delete name predicate).2.rows name).Keyed := by
  rcases delete_cases s name predicate with same | ⟨p, -, left⟩
  · rwa [same]
  · rw [left, rows_put_self]
    exact keyed.filter _

end Store

namespace Session

/-- Upserts, deletions, and updates that write no identity. Payloads name every member once. -/
inductive Operation.KeepsIdentities : Operation → Prop where
  | upsert {payload : Value} (tidy : payload.Tidy) (ignore : Bool) :
      KeepsIdentities (.upsert payload ignore)
  | delete (predicate : Option RowPredicate) : KeepsIdentities (.delete predicate)
  | update (predicate : Option RowPredicate) {payload : Value}
      (silent : ∀ patch, Store.patchOf payload = .ok patch →
        Entries.find? ↑Table.identityKey patch = none) :
      KeepsIdentities (.update predicate payload)

variable {session : Session} {name : String}

theorem store_written (session : Session) (name : String) (effect : Effect (List Nat)) :
    (session.written name effect).2.store = effect.2 := by
  unfold written
  split <;> rfl

theorem store_run_delete (session : Session) (name : String) (predicate : Option RowPredicate) :
    (session.run name (.delete predicate)).2.store = (session.store.delete name predicate).2 := by
  rw [run]
  split
  · rename_i deleted
    rw [deleted]
  · rename_i deleted
    rw [deleted]

theorem run_keyed (keyed : (session.store.rows name).Keyed) {operation : Operation}
    (keeps : operation.KeepsIdentities) :
    ((session.run name operation).2.store.rows name).Keyed := by
  cases keeps with
  | upsert tidy ignore =>
      rw [run, store_written]
      exact Store.upsert_keyed keyed tidy ignore
  | delete predicate =>
      rw [store_run_delete]
      exact Store.delete_keyed keyed predicate
  | update predicate silent =>
      rw [run, store_written]
      exact Store.update_keyed keyed silent predicate

def after (session : Session) (name : String) (operations : List Operation) : Session :=
  operations.foldl (fun session operation => (session.run name operation).2) session

theorem after_append (session : Session) (name : String) (first second : List Operation) :
    session.after name (first ++ second) = (session.after name first).after name second :=
  List.foldl_append

theorem after_keyed (keyed : (session.store.rows name).Keyed) {operations : List Operation}
    (keep : ∀ operation ∈ operations, operation.KeepsIdentities) :
    ((session.after name operations).store.rows name).Keyed := by
  induction operations generalizing session with
  | nil => exact keyed
  | cons operation rest ih =>
      obtain ⟨first, others⟩ := List.forall_mem_cons.mp keep
      exact ih (run_keyed keyed first) others

/-- Identities stay unique over every run of operations that keep them, and right behind each of
its upserts every identity of the payload is that of exactly one row. -/
theorem identities_of_run (keyed : (session.store.rows name).Keyed) {operations : List Operation}
    (keep : ∀ operation ∈ operations, operation.KeepsIdentities) :
    ((session.after name operations).store.rows name).Keyed ∧
      ∀ before payload ignore, before ++ [.upsert payload ignore] <+: operations →
        ∀ rows, Table.payloadRows payload = .ok rows →
          ∀ row ∈ rows, Table.Identifies row →
            ((session.after name (before ++ [.upsert payload ignore])).store.rows name).HoldsOnce
              (Table.identityOf row) := by
  refine ⟨after_keyed keyed keep, ?_⟩
  intro before payload ignore ran rows accepted row member identifies
  have found : ((session.after name before).store.rows name).Keyed :=
    after_keyed keyed fun operation ho => keep operation (ran.subset (by simp [ho]))
  have tidy : payload.Tidy := by
    cases keep _ (ran.subset (List.mem_append_right _ List.mem_cons_self)) with
    | upsert tidy _ => exact tidy
  have last : (session.after name (before ++ [.upsert payload ignore])).store =
      ((session.after name before).store.upsert name payload ignore).2 := by
    rw [after_append]
    exact store_written _ _ _
  rw [last]
  exact Store.holdsOnce_of_upsert found tidy accepted ignore member identifies

def draftedPosts : Session :=
  ofStore ⟨[("posts", [.object [("id", .ofInt 1)], .object [("title", .string "draft")]])]⟩

theorem draftedPosts_keyed : (draftedPosts.store.rows "posts").Keyed := by
  refine ⟨?_, ?_, by decide⟩
  · intro row hr
    simp only [draftedPosts, ofStore, Store.rows, Entries.find?, if_true, Option.getD_some,
      List.mem_cons, List.not_mem_nil, or_false] at hr
    rcases hr with rfl | rfl <;> rfl
  · intro row hr
    simp only [draftedPosts, ofStore, Store.rows, Entries.find?, if_true, Option.getD_some,
      List.mem_cons, List.not_mem_nil, or_false] at hr
    rcases hr with rfl | rfl
    · exact .number _
    · exact .null

def retypedPosts : Value :=
  .array [.object [("id", .bool true)], .object [("id", .ofInt 2)], .object [("id", .ofInt 2)]]

def retyping : List Operation :=
  [.upsert retypedPosts false, .delete (some fun row => .ok (row.identity.same (.ofInt 2))),
    .update (some fun _ => .ok true) (.object [("title", .string "done")])]

theorem retyping_keepsIdentities : ∀ operation ∈ retyping, operation.KeepsIdentities := by
  intro operation ho
  simp only [retyping, List.mem_cons, List.not_mem_nil, or_false] at ho
  rcases ho with rfl | rfl | rfl
  · refine .upsert (.array fun v hv => ?_) false
    simp only [List.mem_cons, List.not_mem_nil, or_false] at hv
    rcases hv with rfl | rfl | rfl
    · exact .object (by decide) (by simpa using .bool true)
    · exact .object (by decide) (by simpa using .number _)
    · exact .object (by decide) (by simpa using .number _)
  · exact .delete _
  · refine .update _ fun patch hp => ?_
    cases hp
    rfl

theorem identities_of_retyping :
    ((draftedPosts.after "posts" retyping).store.rows "posts").Keyed ∧
      ((draftedPosts.after "posts" [.upsert retypedPosts false]).store.rows "posts").HoldsOnce
        (.bool true) := by
  obtain ⟨keyed, once⟩ := identities_of_run draftedPosts_keyed retyping_keepsIdentities
  refine ⟨keyed, once [] retypedPosts false ⟨_, rfl⟩ _ rfl [("id", .bool true)] (by simp) ?_⟩
  exact ⟨rfl, .bool true⟩

end Session

end TableServer
