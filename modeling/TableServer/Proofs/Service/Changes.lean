import TableServer.Proofs.Query.Columns
import TableServer.Proofs.Service.Requests
import TableServer.Proofs.Table.Changes

/-! What requests make of the store. A request that calls no handler leaves the store as it was, or
it rewrites the table that it addresses by the one write that its method asks for. -/
namespace TableServer

open RowPredicate

/-- What a write makes of the rows of its table. -/
inductive Table.Becomes (kind : RequestKind) (body : Value) (q : Query) (old : Table) :
    Table → Prop where
  | inserted {rows : List Members} : kind = .insert → payloadRows body = .ok rows →
      Becomes kind body q old (old.append rows)
  | upserted {rows : List Members} {left : Table} : kind = .upsert →
      payloadRows body = .ok rows → Upserted rows old left → Becomes kind body q old left
  | updated {patch : Members} {p : RowPredicate} : kind = .update →
      Store.patchOf body = .ok patch → Service.predicateOf q = some p → old ≠ [] →
      Becomes kind body q old (old.map fun row => if chooses p row then row.patched patch else row)
  | deleted {p : RowPredicate} : kind = .delete → Service.predicateOf q = some p → old ≠ [] →
      Becomes kind body q old (old.filter (!chooses p ·))

theorem Table.Becomes.objects {kind : RequestKind} {body : Value} {q : Query} {old new : Table}
    (h : Becomes kind body q old new) (objects : AllObjects old) : AllObjects new := by
  cases h with
  | inserted _ _ =>
      refine List.forall_mem_append.mpr ⟨objects, fun row hr => ?_⟩
      obtain ⟨members, -, rfl⟩ := List.mem_map.mp hr
      rfl
  | upserted _ _ upserted => exact upserted.objects objects
  | updated _ _ _ _ =>
      intro row hr
      obtain ⟨before, hb, rfl⟩ := List.mem_map.mp hr
      split
      · exact Value.isObject_patched (objects before hb) _
      · exact objects before hb
  | deleted _ _ _ => exact fun row hr => objects row (List.mem_filter.mp hr).1

namespace Service

variable {s : Service} {r : Request} {route : Route}

theorem writeTable_cases (objects : AllObjects (s.store.rows route.qualified))
    (prefs : Preferences) (body : Value) (q : Query) :
    (s.writeTable route prefs body q).2 = s.store ∨
      ∃ new, Table.Becomes route.kind body q (s.store.rows route.qualified) new ∧
        (s.writeTable route prefs body q).2 = s.store.put route.qualified new := by
  unfold writeTable
  cases kind : route.kind with
  | insert =>
      cases hp : Table.payloadRows body with
      | error e => exact .inl (by simp [Store.touched, Store.insert, hp])
      | ok rows => exact .inr ⟨_, .inserted rfl hp, by simp [Store.touched, Store.insert, hp]⟩
  | upsert =>
      cases hp : Table.payloadRows body with
      | error e => exact .inl (by simp [Store.touched, Store.upsert, hp])
      | ok rows =>
          have upserted := Table.upserted_upsertRows prefs.ignoresDuplicates rows
            (s.store.rows route.qualified)
          exact .inr ⟨_, .upserted rfl hp upserted, by simp [Store.touched, Store.upsert, hp]⟩
  | update =>
      by_cases empty : s.store.rows route.qualified = []
      · exact .inl (Store.update_of_no_rows empty _ _)
      · refine (Store.update_cases objects body (predicateOf q)).imp_right ?_
        rintro ⟨patch, p, hp, told, left⟩
        exact ⟨_, .updated rfl hp told empty, left⟩
  | delete =>
      by_cases empty : s.store.rows route.qualified = []
      · exact .inl (Store.delete_of_no_rows empty _)
      · refine (Store.delete_cases s.store route.qualified (predicateOf q)).imp_right ?_
        rintro ⟨p, told, left⟩
        exact ⟨_, .deleted rfl told empty, left⟩
  | _ => exact .inl rfl

/-- A request that writes: its route, its body and query as they are read, and what it makes of the
table. -/
structure Rewrites (s : Service) (r : Request) (route : Route) (body : Value) (q : Query)
    (new : Table) : Prop where
  addresses : s.Addresses r route
  reads : requestBody route r = .ok body
  parses : Query.read r.query (r.header? "range") = .ok q
  becomes : Table.Becomes route.kind body q (s.store.rows route.qualified) new
  store : (s.handle r).store = s.store.put route.qualified new

theorem store_cases (objects : ∀ name, AllObjects (s.store.rows name)) (calm : s.CallsNoHandler r) :
    (s.handle r).store = s.store ∨ ∃ route body q new, s.Rewrites r route body q new := by
  rcases calm.cases with ⟨failure, refused⟩ | ⟨route, addressed⟩
  · exact .inl (by rw [refused]; rfl)
  rcases handle_cases addressed with ⟨failure, c, refused⟩ | ⟨body, q, c, hb, hq, run⟩
  · exact .inl (by rw [refused]; rfl)
  cases writes : route.kind.writes with
  | false => exact .inl (by rw [run]; exact runTable_read writes (preferences r) body q)
  | true =>
      have left : (s.handle r).store = (s.writeTable route (preferences r) body q).2 := by
        rw [run, runTable_write writes]
        rfl
      rw [left]
      refine (writeTable_cases (objects _) (preferences r) body q).imp_right ?_
      rintro ⟨new, becomes, put⟩
      exact ⟨route, body, q, new, addressed, hb, hq, becomes, left.trans put⟩

end Service

end TableServer
