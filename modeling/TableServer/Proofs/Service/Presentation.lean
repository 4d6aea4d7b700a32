import TableServer.Proofs.Service.Guarding

/-! Presentation of writes. Select lists, orders, windows, parameters of referenced tables, shapes,
counts and returns tell how the rows of a write are answered. What is written is told by the filters
of the rows, the body and the resolution of duplicates, so it does not depend on them. -/
namespace TableServer

namespace Request

/-- How duplicates are resolved, as the route and the write of a request read it. -/
def resolutions (r : Request) : Option Resolution × Option Resolution :=
  ((Preferences.read (Headers.look? "Prefer" r.headers)).resolution,
    (Service.preferences r).resolution)

theorem predicateOf_eq {r r' : Request} {q q' : Query}
    (parsed : Query.read r.query (r.header? "range") = .ok q)
    (parsed' : Query.read r'.query (r'.header? "range") = .ok q')
    (filters : r.rowFilters = r'.rowFilters) : Service.predicateOf q = Service.predicateOf q' := by
  have read := Query.filters_of_read parsed
  have read' := Query.filters_of_read parsed'
  have same : q.scope.filters = q'.scope.filters := by
    rw [rowFilters, rowFilters] at filters
    rw [filters] at read
    exact Except.ok.inj (read.symm.trans read')
  rw [Service.predicateOf, Service.predicateOf, Scope.predicate?, Scope.predicate?, same]

end Request

namespace Service

variable {s : Service} {r r' : Request} {route : Route}

/-- Two requests that may differ only in what tells how the rows of a write are presented. -/
structure WriteAlike (s : Service) (r r' : Request) : Prop where
  method : r.method = r'.method
  path : r.path = r'.path
  body : r.body = r'.body
  profile : Headers.look? s.settings.writeProfileHeader r.headers =
    Headers.look? s.settings.writeProfileHeader r'.headers
  resolutions : r.resolutions = r'.resolutions
  filters : r.rowFilters = r'.rowFilters

def passes (s : Service) (route : Route) (body : Value) : Bool :=
  match s.trigger with
  | none => true
  | some trigger =>
      match trigger.consult ⟨route.schema, route.name, body, route.kind⟩ with
      | .error _ => false
      | .ok _ => true

theorem store_of_handleRouted (body : Value) :
    (s.handleRouted route r body).store =
      if s.passes route body then (s.dispatch route r body).2 else s.store := by
  unfold handleRouted passes
  cases s.trigger with
  | none => rfl
  | some trigger =>
      dsimp only
      split <;> simp_all [refuse, exchange]

theorem store_of_write (h : s.Addresses r route) (writes : route.kind.writes = true) {q : Query}
    (parsed : Query.read r.query (r.header? "range") = .ok q) :
    (s.handle r).store =
      match requestBody route r with
      | .error _ => s.store
      | .ok body =>
          if s.passes route body then (s.writeTable route (preferences r) body q).2
          else s.store := by
  simp only [handle, h.noFunction, h.classified]
  cases requestBody route r with
  | error e => rfl
  | ok body =>
      simp only [store_of_handleRouted, dispatch_table h, parsed, runTable_write writes]
      rfl

theorem writeTable_eq {prefs prefs' : Preferences} {q q' : Query}
    (resolution : prefs.resolution = prefs'.resolution) (predicate : predicateOf q = predicateOf q')
    (body : Value) : s.writeTable route prefs body q = s.writeTable route prefs' body q' := by
  unfold writeTable
  rw [Preferences.ignoresDuplicates, Preferences.ignoresDuplicates, resolution, predicate]

namespace WriteAlike

theorem tableKind_eq (alike : s.WriteAlike r r') (verb : String) :
    Route.tableKind verb r.headers = Route.tableKind verb r'.headers := by
  have resolution := congrArg Prod.fst alike.resolutions
  unfold Route.tableKind Preferences.merges
  rw [show (Preferences.read (Headers.look? "Prefer" r.headers)).resolution =
    (Preferences.read (Headers.look? "Prefer" r'.headers)).resolution from resolution]

theorem addresses (alike : s.WriteAlike r r') (h : s.Addresses r route)
    (writes : route.kind.writes = true) : s.Addresses r' route := by
  have verb : Route.readsOnly r.verb = false := by
    by_contra reads
    have still := Route.writes_of_readsOnly h.tableKind_eq (Bool.of_not_eq_false reads)
    rw [writes] at still
    cases still
  have schema : Route.schemaOf r.verb r.headers s.settings =
      Route.schemaOf r.verb r'.headers s.settings := by
    simp only [Route.schemaOf, verb, alike.profile, Bool.false_eq_true, if_false]
  refine ⟨by rw [← alike.path, h.noFunction], ?_, h.table⟩
  rw [← h.classified, ← alike.method, ← alike.path]
  unfold Request.verb at schema
  simp only [Route.classify, schema, alike.tableKind_eq]

theorem requestBody_eq (alike : s.WriteAlike r r') :
    requestBody route r = requestBody route r' := by
  unfold requestBody withoutBody Request.jsonBody
  rw [alike.method, alike.body]

end WriteAlike

/-- How the rows of a write are presented does not influence what is written. -/
theorem store_of_presented_write (alike : s.WriteAlike r r') (addressed : s.Addresses r route)
    (writes : route.kind.writes = true)
    (parsed : ∃ q, Query.read r.query (r.header? "range") = .ok q)
    (parsed' : ∃ q, Query.read r'.query (r'.header? "range") = .ok q) :
    (s.handle r).store = (s.handle r').store := by
  obtain ⟨q, hq⟩ := parsed
  obtain ⟨q', hq'⟩ := parsed'
  have written (body : Value) : s.writeTable route (preferences r) body q =
      s.writeTable route (preferences r') body q' :=
    writeTable_eq (congrArg Prod.snd alike.resolutions)
      (Request.predicateOf_eq hq hq' alike.filters) body
  rw [store_of_write addressed writes hq, store_of_write (alike.addresses addressed writes) writes hq',
    alike.requestBody_eq]
  simp only [written]

def countedDeletion : Request :=
  ⟨"DELETE", "/rest/v1/posts",
    [("order", "id.desc"), ("id", "neq.0"), ("comments.limit", "1"), ("on_conflict", "id")],
    [("prefer", "return=minimal,count=exact"), ("range", "1-1")], []⟩

theorem store_of_counted_deletion :
    (twoPosts.handle misshapenDeletion).store = (twoPosts.handle countedDeletion).store := by
  have alike : twoPosts.WriteAlike misshapenDeletion countedDeletion :=
    ⟨rfl, rfl, rfl, by rfl, by rfl, by decide⟩
  exact store_of_presented_write alike misshapenDeletion_addresses rfl ⟨_, by rfl⟩ ⟨_, by rfl⟩

end Service

end TableServer
