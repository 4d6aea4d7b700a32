import TableServer.Proofs.Outcome
import TableServer.Service.Exchange

/-! Requests for tables. Such a request is refused while the store is as it was, or it is run on
the table of its route with the body and the query that were read. A write is told apart from the
answer that is made of its rows. -/
namespace TableServer

namespace RequestKind

def writes : RequestKind → Bool
  | insert => true
  | upsert => true
  | update => true
  | delete => true
  | _ => false

end RequestKind

namespace Route

variable {method path : String} {headers : Headers} {settings : Settings}

theorem tableKind_ne_rpc {kind : RequestKind} (h : tableKind method headers = .ok kind) :
    kind ≠ .rpc := by
  unfold tableKind at h
  split at h
  all_goals cases h
  all_goals try decide
  split <;> decide

theorem tableKind_of_classify {route : Route}
    (classified : classify method path headers settings = .ok route)
    (table : route.rpc = false) :
    tableKind (String.ofList (Text.upper method.toList)) headers = .ok route.kind := by
  unfold classify at classified
  dsimp only at classified
  split at classified
  · cases classified
  · cases classified
  · split at classified
    · split at classified
      · cases classified
      · cases classified
        cases table
    · obtain ⟨kind, hk, rfl⟩ := Outcome.map_eq_ok_iff.mp classified
      exact hk

theorem kind_ne_rpc {route : Route} (classified : classify method path headers settings = .ok route)
    (table : route.rpc = false) : route.kind ≠ .rpc :=
  tableKind_ne_rpc (tableKind_of_classify classified table)

theorem writes_of_readsOnly {verb : String} {headers : Headers} {kind : RequestKind}
    (h : tableKind verb headers = .ok kind) (reads : readsOnly verb = true) :
    kind.writes = false := by
  unfold tableKind at h
  split at h
  all_goals cases h
  all_goals first | rfl | cases reads

theorem verb_of_tableKind {verb : String} {headers : Headers} {kind : RequestKind}
    (h : tableKind verb headers = .ok kind) (adds : kind = .insert ∨ kind = .upsert) :
    verb = "POST" := by
  unfold tableKind at h
  split at h
  all_goals cases h
  all_goals first | rfl | (rcases adds with adds | adds <;> cases adds)

end Route

def Request.verb (r : Request) : String :=
  String.ofList (Text.upper r.method.toList)

namespace Service

/-- A request for a table, with the route that it takes. -/
structure Addresses (s : Service) (r : Request) (route : Route) : Prop where
  noFunction : Route.functionName r.path s.settings = .ok none
  classified : Route.classify r.method r.path r.headers s.settings = .ok route
  table : route.rpc = false

/-- A request that reaches neither an edge function nor a procedure. -/
structure CallsNoHandler (s : Service) (r : Request) : Prop where
  noFunction : ∀ name, Route.functionName r.path s.settings ≠ .ok (some name)
  noProcedure : ∀ route, Route.classify r.method r.path r.headers s.settings = .ok route →
    route.rpc = false

def preferences (r : Request) : Preferences :=
  Preferences.read (r.header? "prefer")

variable {s : Service} {r : Request} {route : Route}

theorem routed_cases (noFunction : ∀ name, Route.functionName r.path s.settings ≠ .ok (some name)) :
    (∃ e, s.handle r = s.refuse e none) ∨
      ∃ route, Route.functionName r.path s.settings = .ok none ∧
        Route.classify r.method r.path r.headers s.settings = .ok route := by
  cases hf : Route.functionName r.path s.settings with
  | error e => exact .inl ⟨.service e, by simp [handle, hf]⟩
  | ok name =>
      cases name with
      | some name => exact absurd hf (noFunction name)
      | none =>
          cases hc : Route.classify r.method r.path r.headers s.settings with
          | error e => exact .inl ⟨.service e, by simp [handle, hf, hc]⟩
          | ok route => exact .inr ⟨route, rfl, rfl⟩

theorem CallsNoHandler.cases (h : s.CallsNoHandler r) :
    (∃ e, s.handle r = s.refuse e none) ∨ ∃ route, s.Addresses r route := by
  rcases routed_cases h.noFunction with refused | ⟨route, noFunction, classified⟩
  · exact .inl refused
  · exact .inr ⟨route, noFunction, classified, h.noProcedure route classified⟩

theorem Addresses.callsNoHandler (h : s.Addresses r route) : s.CallsNoHandler r := by
  refine ⟨fun name hf => ?_, fun other hc => ?_⟩
  · rw [h.noFunction] at hf
    cases hf
  · rw [h.classified] at hc
    cases hc
    exact h.table

theorem Addresses.tableKind_eq (h : s.Addresses r route) :
    Route.tableKind r.verb r.headers = .ok route.kind :=
  Route.tableKind_of_classify h.classified h.table

theorem dispatch_table (h : s.Addresses r route) (body : Value) :
    s.dispatch route r body =
      match Query.read r.query (r.header? "range") with
      | .error e => (.error e, s.store)
      | .ok q => s.runTable route r (preferences r) body q := by
  have kind := Route.kind_ne_rpc h.classified h.table
  unfold dispatch
  rw [h.table]
  cases hk : route.kind <;> first | exact absurd hk kind | rfl

theorem handle_of_quiet (h : s.Addresses r route) (quiet : s.trigger = none) :
    s.handle r =
      match requestBody route r with
      | .error e => s.refuse e none
      | .ok body =>
          match Query.read r.query (r.header? "range") with
          | .error e => s.refuse e none
          | .ok q => exchange (s.runTable route r (preferences r) body q) none := by
  simp only [handle, h.noFunction, h.classified]
  cases requestBody route r with
  | error e => rfl
  | ok body =>
      simp only [handleRouted, quiet, dispatch_table h]
      cases Query.read r.query (r.header? "range") <;> rfl

theorem handle_table (h : s.Addresses r route) (quiet : s.trigger = none) {body : Value}
    {q : Query} (hb : requestBody route r = .ok body)
    (hq : Query.read r.query (r.header? "range") = .ok q) :
    s.handle r = exchange (s.runTable route r (preferences r) body q) none := by
  simp only [handle_of_quiet h quiet, hb, hq]

theorem handleRouted_cases (s : Service) (route : Route) (r : Request) (body : Value) :
    (∃ e c, s.handleRouted route r body = s.refuse e c) ∨
      ∃ c, s.handleRouted route r body = exchange (s.dispatch route r body) c := by
  unfold handleRouted
  cases s.trigger with
  | none => exact .inr ⟨none, rfl⟩
  | some trigger =>
      dsimp only
      split
      · exact .inl ⟨_, _, rfl⟩
      · exact .inr ⟨_, rfl⟩

theorem handle_cases (h : s.Addresses r route) :
    (∃ e c, s.handle r = s.refuse e c) ∨
      ∃ body q c, requestBody route r = .ok body ∧
        Query.read r.query (r.header? "range") = .ok q ∧
        s.handle r = exchange (s.runTable route r (preferences r) body q) c := by
  simp only [handle, h.noFunction, h.classified]
  cases hb : requestBody route r with
  | error e => exact .inl ⟨e, none, rfl⟩
  | ok body =>
      rcases s.handleRouted_cases route r body with refused | ⟨c, run⟩
      · exact .inl refused
      · rw [dispatch_table h] at run
        cases hq : Query.read r.query (r.header? "range") with
        | error e =>
            rw [hq] at run
            exact .inl ⟨e, c, run⟩
        | ok q =>
            rw [hq] at run
            exact .inr ⟨body, q, c, rfl, rfl, run⟩

def writeTable (s : Service) (route : Route) (prefs : Preferences) (body : Value) (q : Query) :
    Effect (List Value) :=
  let name := route.qualified
  match route.kind with
  | .insert => Store.touched name (s.store.insert name body)
  | .upsert => Store.touched name (s.store.upsert name body prefs.ignoresDuplicates)
  | .update => Store.touched name (s.store.update name (predicateOf q) body)
  | .delete => s.store.delete name (predicateOf q)
  | _ => (.ok [], s.store)

def writeStatus : RequestKind → Int
  | .insert => 201
  | .upsert => 201
  | _ => 200

theorem runTable_write (h : route.kind.writes = true) (prefs : Preferences) (body : Value)
    (q : Query) :
    s.runTable route r prefs body q =
      s.finishWrite route r q prefs (writeStatus route.kind) (s.writeTable route prefs body q) := by
  unfold runTable writeTable
  cases hk : route.kind <;> first | rfl | simp [hk, RequestKind.writes] at h

theorem runTable_read (h : route.kind.writes = false) (prefs : Preferences) (body : Value)
    (q : Query) : (s.runTable route r prefs body q).2 = s.store := by
  unfold runTable
  cases hk : route.kind <;> first | rfl | simp [hk, RequestKind.writes] at h

def twoPosts : Service :=
  .ofStore {} ⟨[("public.posts", [.object [("id", .ofInt 1)], .object [("id", .ofInt 2)]])]⟩

theorem twoPosts_objects (name : String) :
    ∀ row ∈ twoPosts.store.rows name, row.isObject = true := by
  intro row hr
  simp only [twoPosts, ofStore, Store.rows, Entries.find?] at hr
  split at hr
  · simp only [Option.getD_some, List.mem_cons, List.not_mem_nil, or_false] at hr
    rcases hr with rfl | rfl <;> rfl
  · cases hr

end Service

end TableServer
