import TableServer.Proofs.Service.Changes
import TableServer.Proofs.Service.Refusal

/-! Runs of a service. What one request leaves of the store is told table by table; over a run of
requests it holds of each of them, for the tables of a run are tables of objects throughout. -/
namespace TableServer

namespace Service

variable {s t : Service} {r : Request} {route : Route}

theorem CallsNoHandler.of_settings (h : s.CallsNoHandler r) (same : t.settings = s.settings) :
    t.CallsNoHandler r := by
  obtain ⟨noFunction, noProcedure⟩ := h
  rw [← same] at noFunction noProcedure
  exact ⟨noFunction, noProcedure⟩

/-- What a request that calls no handler leaves of the store. Rows stay objects, and tables stay in
their order; one that is new is created by a POST of rows to it. No table changes but the one that
is addressed, and none by a read. -/
structure Leaves (s : Service) (r : Request) (left : Store) : Prop where
  objects : ∀ name, AllObjects (left.rows name)
  names : Entries.names s.store.tables <+: Entries.names left.tables
  created : ∀ name ∈ Entries.names left.tables, name ∉ Entries.names s.store.tables →
    ∃ route body rows, s.Addresses r route ∧ route.qualified = name ∧ r.verb = "POST" ∧
      requestBody route r = .ok body ∧ Table.payloadRows body = .ok rows
  others : ∀ name, (∀ route, s.Addresses r route → route.qualified ≠ name) →
    Entries.find? name left.tables = Entries.find? name s.store.tables
  reads : Route.readsOnly r.verb = true → left = s.store
  addressed : ∀ route, s.Addresses r route →
    left.rows route.qualified = s.store.rows route.qualified ∨
      ∃ body q, requestBody route r = .ok body ∧ Query.read r.query (r.header? "range") = .ok q ∧
        Table.Becomes route.kind body q (s.store.rows route.qualified) (left.rows route.qualified)

theorem Leaves.same (objects : ∀ name, AllObjects (s.store.rows name)) (r : Request) :
    s.Leaves r s.store :=
  ⟨objects, List.prefix_rfl, fun _ there absent => absurd there absent, fun _ _ => rfl,
    fun _ => rfl, fun _ _ => .inl rfl⟩

theorem Rewrites.created {body : Value} {q : Query} {new : Table}
    (h : s.Rewrites r route body q new)
    (absent : route.qualified ∉ Entries.names s.store.tables) :
    r.verb = "POST" ∧ ∃ rows, Table.payloadRows body = .ok rows := by
  have verb := Route.verb_of_tableKind h.addresses.tableKind_eq
  have filled (some_row : s.store.rows route.qualified ≠ []) : False :=
    absent (Store.mem_names_of_rows some_row)
  cases h.becomes with
  | inserted kind payload => exact ⟨verb (.inl kind), _, payload⟩
  | upserted kind payload _ => exact ⟨verb (.inr kind), _, payload⟩
  | updated _ _ _ some_row => exact (filled some_row).elim
  | deleted _ _ some_row => exact (filled some_row).elim

theorem Rewrites.writes {body : Value} {q : Query} {new : Table}
    (h : s.Rewrites r route body q new) : route.kind.writes = true := by
  cases h.becomes with
  | inserted kind _ => rw [kind]; rfl
  | upserted kind _ _ => rw [kind]; rfl
  | updated kind _ _ _ => rw [kind]; rfl
  | deleted kind _ _ => rw [kind]; rfl

theorem Rewrites.leaves (objects : ∀ name, AllObjects (s.store.rows name)) {body : Value}
    {q : Query} {new : Table} (h : s.Rewrites r route body q new) :
    s.Leaves r (s.store.put route.qualified new) := by
  have only (other : Route) (addressed : s.Addresses r other) : other = route :=
    Except.ok.inj (addressed.classified.symm.trans h.addresses.classified)
  refine ⟨fun name => ?_, ?_, fun name there absent => ?_, fun name apart => ?_, fun reads => ?_,
    fun other addressed => ?_⟩
  · by_cases here : name = route.qualified
    · rw [here, Store.rows_put_self]
      exact h.becomes.objects (objects _)
    · rw [Store.rows_put_of_ne here]
      exact objects name
  · rw [Store.put, Entries.names_put]
    split
    · exact List.prefix_rfl
    · exact List.prefix_append _ _
  · obtain rfl | before := Entries.mem_names_put.mp there
    · obtain ⟨verb, rows, payload⟩ := h.created absent
      exact ⟨route, body, rows, h.addresses, rfl, verb, h.reads, payload⟩
    · exact absurd before absent
  · exact Entries.find?_put_of_ne (apart route h.addresses).symm new s.store.tables
  · have still := Route.writes_of_readsOnly h.addresses.tableKind_eq reads
    rw [h.writes] at still
    cases still
  · obtain rfl := only other addressed
    rw [Store.rows_put_self]
    exact .inr ⟨body, q, h.reads, h.parses, h.becomes⟩

theorem leaves_handle (objects : ∀ name, AllObjects (s.store.rows name))
    (calm : s.CallsNoHandler r) : s.Leaves r (s.handle r).store := by
  rcases store_cases objects calm with same | ⟨route, body, q, new, rewrites⟩
  · rw [same]
    exact .same objects r
  · rw [rewrites.store]
    exact rewrites.leaves objects

def after (s : Service) (requests : List Request) : Service :=
  requests.foldl (fun s r => s.behind (s.handle r)) s

theorem settings_after (s : Service) (requests : List Request) :
    (s.after requests).settings = s.settings := by
  induction requests generalizing s with
  | nil => rfl
  | cons r rest ih => exact ih (s.behind (s.handle r))

theorem objects_after {requests : List Request} (objects : ∀ name, AllObjects (s.store.rows name))
    (calm : ∀ r ∈ requests, s.CallsNoHandler r) (name : String) :
    AllObjects ((s.after requests).store.rows name) := by
  induction requests generalizing s with
  | nil => exact objects name
  | cons r rest ih =>
      obtain ⟨first, others⟩ := List.forall_mem_cons.mp calm
      have next : ∀ name, AllObjects ((s.behind (s.handle r)).store.rows name) :=
        (leaves_handle objects first).objects
      exact ih next fun other ho => (others other ho).of_settings rfl

/-- Every request of a run leaves what a request may leave of the store that it finds. -/
theorem leaves_of_run {requests before : List Request}
    (objects : ∀ name, AllObjects (s.store.rows name))
    (calm : ∀ r ∈ requests, s.CallsNoHandler r) (ran : before ++ [r] <+: requests) :
    (s.after before).Leaves r (s.after (before ++ [r])).store := by
  have each : ∀ other ∈ before ++ [r], s.CallsNoHandler other := fun other ho =>
    calm other (ran.subset ho)
  have found := objects_after objects fun other ho => each other (List.mem_append_left _ ho)
  have last := (each r (by simp)).of_settings (s.settings_after before)
  have step : s.after (before ++ [r]) = (s.after before).behind ((s.after before).handle r) := by
    simp [after]
  rw [step]
  exact leaves_handle found last

theorem leaves_of_misshapen_deletion_in_run :
    (twoPosts.after [unfilteredDeletion]).Leaves misshapenDeletion
      (twoPosts.after [unfilteredDeletion, misshapenDeletion]).store := by
  have calm : ∀ r ∈ [unfilteredDeletion, misshapenDeletion], twoPosts.CallsNoHandler r := by
    intro r hr
    simp only [List.mem_cons, List.not_mem_nil, or_false] at hr
    rcases hr with rfl | rfl
    · exact unfilteredDeletion_addresses.callsNoHandler
    · exact misshapenDeletion_addresses.callsNoHandler
  exact leaves_of_run twoPosts_objects calm List.prefix_rfl

end Service

end TableServer
