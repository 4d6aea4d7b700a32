import TableServer.Proofs.Service.Calls
import TableServer.Proofs.Service.HeadReads

/-! Rows that a procedure gives. A call is answered as a read of a table that holds these rows, by
the same query and headers: with the same rows and counts, or refused alike. Only the profile tells
the two apart, since it names the procedure or the table. -/
namespace TableServer

namespace Response

def withoutProfile (response : Response) : Response :=
  { response with headers := Entries.erase "content-profile" response.headers }

theorem withoutProfile_ofRows (route other : Route) (prefs : Preferences) (shape : Shape)
    (status : Int) (result : QueryResult) :
    (ofRows route prefs shape status result).map withoutProfile =
      (ofRows other prefs shape status result).map withoutProfile := by
  unfold ofRows
  cases shape.resolve result.rows with
  | error failure => rfl
  | ok v =>
      dsimp only [Except.bind]
      cases jsonContent v <;> rfl

theorem withoutProfile_settle {run other : Outcome Response}
    (same : run.map withoutProfile = other.map withoutProfile) :
    (settle run).map withoutProfile = (settle other).map withoutProfile := by
  cases run with
  | ok response =>
      obtain ⟨told, rfl, profile⟩ := Outcome.map_eq_ok_iff.mp same.symm
      exact congrArg Except.ok profile.symm
  | error failure =>
      rw [Outcome.map_eq_error_iff.mp same.symm]

end Response

/-- Requests that agree on their query and on the headers that tell the shape, the counts and the
window of an answer. -/
structure Request.AsksLike (reading call : Request) : Prop where
  query : reading.query = call.query
  accept : reading.header? "accept" = call.header? "accept"
  prefer : reading.header? "prefer" = call.header? "prefer"
  range : reading.header? "range" = call.header? "range"

namespace Service

variable {s t : Service} {r reading call : Request} {route table : Route} {rows : List Value}

/-- A POST to a procedure that gives rows, all of them objects, and writes nothing. -/
structure GivesRows (s : Service) (r : Request) (route : Route) (rows : List Value) : Prop where
  posted : r.method = "POST"
  noFunction : Route.functionName r.path s.settings = .ok none
  procedure : route.rpc = true
  gives : s.Gives r route (.ok (.value (.array rows)), s.store)
  objects : ∀ row ∈ rows, row.isObject = true

/-- A read of a table that holds rows. -/
structure ReadsRows (s : Service) (r : Request) (route : Route) (rows : List Value) : Prop where
  reads : r.verb = "GET"
  addressed : s.Addresses r route
  held : s.store.rows route.qualified = rows

theorem GivesRows.callsProcedure (h : s.GivesRows r route rows) : s.CallsProcedure r := by
  refine ⟨h.posted, fun name told => ?_, fun other told => ?_⟩
  · cases h.noFunction.symm.trans told
  · cases h.gives.classified.symm.trans told
    exact h.procedure

theorem GivesRows.outcome_eq (h : s.GivesRows r route rows) (quiet : s.trigger = none) :
    (s.handle r).outcome = Response.settle
      (((Query.read r.query (r.header? "range")).bind fun q => q.run rows).bind
        (Response.ofRows route (preferences r) (s.shapeFor r) 200)) := by
  obtain ⟨classified, body, parameters, read, told, given⟩ := h.gives
  have kind := h.callsProcedure.kind_eq classified
  have rows_eq : (Reply.value (.array rows)).rows? = some rows :=
    if_pos (List.all_eq_true.mpr h.objects)
  have answered : s.answerProcedure route r (preferences r) (.value (.array rows)) =
      ((Query.read r.query (r.header? "range")).bind fun q => q.run rows).bind
        (Response.ofRows route (preferences r) (s.shapeFor r) 200) := by
    rw [answerProcedure, if_pos h.posted, rows_eq]
    cases Query.read r.query (r.header? "range") <;> rfl
  have dispatched : (s.dispatch route r body).1 =
      s.answerProcedure route r (preferences r) (.value (.array rows)) := by
    simp only [dispatch, kind, runProcedure, told, given]
    rfl
  simp only [handle, h.noFunction, classified, read, handleRouted, quiet, exchange, dispatched,
    answered]

/-- A procedure that gives rows is answered as a table that holds them, but for the profile. -/
theorem outcome_of_given_rows (quiet : s.trigger = none) (quiet' : t.trigger = none)
    (settings : t.settings = s.settings) (gives : s.GivesRows call route rows)
    (reads : t.ReadsRows reading table rows) (alike : reading.AsksLike call) :
    (s.handle call).outcome.map Response.withoutProfile =
      (t.handle reading).outcome.map Response.withoutProfile := by
  have kind := reads.addressed.kind_of_get reads.reads
  have run : t.select table = fun q => q.run rows := by
    funext q
    rw [select, reads.held]
  have result : t.result reading table =
      (Query.read call.query (call.header? "range")).bind fun q => q.run rows := by
    rw [Service.result, alike.query, alike.range, run]
  have shape : t.shapeFor reading = s.shapeFor call := by
    rw [shapeFor, shapeFor, settings, alike.accept]
  have prefs : preferences reading = preferences call := by
    rw [preferences, preferences, alike.prefer]
  rw [gives.outcome_eq quiet, outcome_of_select reads.addressed quiet' kind, result, shape, prefs]
  refine Response.withoutProfile_settle ?_
  cases (Query.read call.query (call.header? "range")).bind fun q => q.run rows with
  | error failure => rfl
  | ok found => exact Response.withoutProfile_ofRows route table _ _ _ found

def listedPosts : Service :=
  { twoPosts with procedures := [("list", Script.procedure (.table "public.posts"))] }

def listingCall : Request :=
  ⟨"POST", "/rest/v1/rpc/list", [("offset", "1"), ("limit", "1")],
    [("prefer", "count=exact"), ("accept", "application/vnd.pgrst.object+json")], []⟩

def listingRead : Request :=
  { listingCall with method := "GET", path := "/rest/v1/posts" }

theorem outcome_of_listed_posts : ∃ response,
    (listedPosts.handle listingRead).outcome = .ok response ∧ response.status = 200 ∧
      Entries.find? "content-range" response.headers = some "1-2/2" ∧
      (listedPosts.handle listingCall).outcome.map Response.withoutProfile =
        .ok response.withoutProfile := by
  have gives : listedPosts.GivesRows listingCall ⟨.rpc, "public", "list", true⟩
      [.object [("id", .ofInt 1)], .object [("id", .ofInt 2)]] :=
    ⟨rfl, by rfl, rfl, ⟨by rfl, .null, .null, by rfl, by rfl, by rfl⟩,
      twoPosts_objects "public.posts"⟩
  have reads : listedPosts.ReadsRows listingRead ⟨.select, "public", "posts", false⟩
      [.object [("id", .ofInt 1)], .object [("id", .ofInt 2)]] :=
    ⟨by rfl, ⟨by rfl, by rfl, rfl⟩, by rfl⟩
  have same := outcome_of_given_rows rfl rfl rfl gives reads ⟨rfl, rfl, rfl, rfl⟩
  obtain ⟨response, answered, status, counted⟩ : ∃ response,
      (listedPosts.handle listingRead).outcome = .ok response ∧ response.status = 200 ∧
        Entries.find? "content-range" response.headers = some "1-2/2" :=
    ⟨_, by rfl, by rfl, by rfl⟩
  rw [answered] at same
  exact ⟨response, answered, status, counted, same⟩

end Service

end TableServer
