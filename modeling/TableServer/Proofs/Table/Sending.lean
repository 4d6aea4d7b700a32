import TableServer.Proofs.Query.Sending
import TableServer.Proofs.Table.Repetition

/-! Writes of what can be sent. A table holds what it held and what a payload or a patch brings, so
a write without surrogates over a table without them leaves none. -/
namespace TableServer

theorem Value.wellFormed_patched {row : Value} (whole : row.wellFormed = true) {patch : Members}
    (merged : membersWellFormed patch = true) : (row.patched patch).wellFormed = true := by
  cases row with
  | object members => exact membersWellFormed_merge whole merged
  | _ => exact whole

namespace Table

variable {table : Table}

theorem objectsOf_wellFormed {items : List Value} (whole : AllWellFormed items) :
    GivesOnly (fun rows => ∀ row ∈ rows, Value.membersWellFormed row = true) (objectsOf items) := by
  induction items with
  | nil => exact fun row hr => absurd hr List.not_mem_nil
  | cons item rest ih =>
      cases item with
      | object members =>
          have head : Value.membersWellFormed members = true := whole (.object members) (by simp)
          have tail := ih fun v hv => whole v (by simp [hv])
          exact tail.map fun _ done => List.forall_mem_cons.mpr ⟨head, done⟩
      | _ => trivial

theorem payloadRows_wellFormed {payload : Value} (whole : payload.wellFormed = true) :
    GivesOnly (fun rows => ∀ row ∈ rows, Value.membersWellFormed row = true)
      (payloadRows payload) := by
  unfold payloadRows
  split
  · trivial
  · trivial
  · exact objectsOf_wellFormed (Value.allWellFormed_iff.mp whole)
  · refine objectsOf_wellFormed fun v hv => ?_
    rw [List.mem_singleton.mp hv]
    exact whole

theorem allWellFormed_patchAt (whole : AllWellFormed table) {patch : Members}
    (merged : Value.membersWellFormed patch = true) (i : Nat) :
    AllWellFormed (patchAt patch i table) :=
  forall_patchAt whole (fun _ row => Value.wellFormed_patched row merged) i

theorem allWellFormed_upsertRows (ignore : Bool) {rows : List Members}
    (each : ∀ row ∈ rows, Value.membersWellFormed row = true) (whole : AllWellFormed table) :
    AllWellFormed (upsertRows ignore rows table).2 := by
  induction rows generalizing table with
  | nil => exact whole
  | cons row rest ih =>
      have head := each row (by simp)
      have tail {table : Table} (whole : AllWellFormed table) :=
        ih (fun other ho => each other (by simp [ho])) whole
      rw [upsertRows, upsertRow]
      cases findIdentity (identityOf row) table with
      | error fault => exact whole
      | ok found =>
          cases found with
          | none =>
              exact tail (forall_append whole [row] fun other ho => List.mem_singleton.mp ho ▸ head)
          | some i =>
              cases ignore with
              | true => exact tail whole
              | false => exact tail (allWellFormed_patchAt whole head i)

theorem allWellFormed_patchAll {patch : Members} (merged : Value.membersWellFormed patch = true)
    (positions : List Nat) (whole : AllWellFormed table) :
    AllWellFormed (patchAll patch positions table).2 := by
  induction positions generalizing table with
  | nil => exact whole
  | cons i rest ih =>
      unfold patchAll
      split
      · exact ih (allWellFormed_patchAt whole merged i)
      · exact whole
      · exact ih whole

theorem part_subset (decisions : List Bool) (table : Table) :
    (part decisions table).2 ⊆ table := by
  induction decisions generalizing table with
  | nil => exact List.nil_subset _
  | cons b decisions ih =>
      cases table with
      | nil => exact List.nil_subset _
      | cons row rest =>
          have tail := ih rest
          cases b with
          | true => exact List.cons_subset_cons row tail
          | false => exact List.subset_cons_of_subset row tail

end Table

namespace Store

variable {s : Store} {name : String} {payload : Value}

theorem touched_wellFormed {effect : Effect (List Nat)}
    (left : AllWellFormed (effect.2.rows name)) :
    GivesOnly AllWellFormed (touched name effect).1 := by
  unfold touched
  cases effect.1 with
  | error e => trivial
  | ok positions => exact Table.forall_rowsAt left positions

variable (whole : AllWellFormed (s.rows name))

include whole

theorem insert_wellFormed (told : payload.wellFormed = true) :
    GivesOnly AllWellFormed (touched name (s.insert name payload)).1 := by
  unfold insert
  refine (Table.payloadRows_wellFormed told).elim (fun rows _ each => ?_) fun _ _ => trivial
  refine touched_wellFormed ?_
  rw [rows_put_self]
  exact Table.forall_append whole rows each

theorem upsert_wellFormed (told : payload.wellFormed = true) (ignore : Bool) :
    GivesOnly AllWellFormed (touched name (s.upsert name payload ignore)).1 := by
  unfold upsert
  refine (Table.payloadRows_wellFormed told).elim (fun rows _ each => ?_) fun _ _ => trivial
  refine touched_wellFormed ?_
  rw [rows_put_self]
  exact Table.allWellFormed_upsertRows ignore each whole

theorem update_wellFormed (told : payload.wellFormed = true) (predicate : Option RowPredicate) :
    GivesOnly AllWellFormed (touched name (s.update name predicate payload)).1 := by
  unfold update
  split
  · trivial
  · trivial
  · rename_i patch p read
    cases payload with
    | object members =>
        cases read
        split
        · trivial
        · dsimp only
          split
          · trivial
          · refine touched_wellFormed ?_
            rw [rows_put_self]
            exact Table.allWellFormed_patchAll told _ whole
    | _ => cases read

theorem delete_wellFormed (predicate : Option RowPredicate) :
    GivesOnly AllWellFormed (s.delete name predicate).1 := by
  unfold delete
  split
  · trivial
  · split
    · trivial
    · split
      · exact fun row hr => absurd hr List.not_mem_nil
      · exact whole.of_subset (Table.part_subset _ _)

end Store

end TableServer
