import TableServer.Proofs.Query.Sending
import TableServer.Proofs.Service.Refusal

/-! Reads of headers alone. HEAD runs the query that GET runs and answers its status and headers
without content. Rows that it does not show have no shape, so only GET is refused for theirs, and
they are not sent, so only GET fails on a surrogate in them. -/
namespace TableServer

/-- A read of rows and a read of their headers alone, by the same path, query and headers. -/
structure Request.Mirrors (reading heading : Request) : Prop where
  reads : reading.verb = "GET"
  heads : heading.verb = "HEAD"
  path : heading.path = reading.path
  query : heading.query = reading.query
  headers : heading.headers = reading.headers

namespace Route

def toHead (route : Route) : Route :=
  { route with kind := .head }

variable {reading heading : Request}

theorem classify_heading (mirrors : reading.Mirrors heading) (settings : Settings) :
    classify heading.method heading.path heading.headers settings =
      (classify reading.method reading.path reading.headers settings).map toHead := by
  have reads : String.ofList (Text.upper reading.method.toList) = "GET" := mirrors.reads
  have heads : String.ofList (Text.upper heading.method.toList) = "HEAD" := mirrors.heads
  unfold classify
  rw [mirrors.path, mirrors.headers, reads, heads]
  dsimp only
  split
  · rfl
  · rfl
  · split
    · split <;> rfl
    · rfl

end Route

namespace Service

variable {s : Service} {r reading heading : Request} {route : Route}

theorem Addresses.kind_of_get (h : s.Addresses r route) (reads : r.verb = "GET") :
    route.kind = .select := by
  have told := h.tableKind_eq
  rw [reads, Route.tableKind] at told
  exact (Except.ok.inj told).symm

def result (s : Service) (r : Request) (route : Route) : Outcome QueryResult :=
  (Query.read r.query (r.header? "range")).bind (s.select route)

theorem outcome_of_read (h : s.Addresses r route) (quiet : s.trigger = none)
    (bodiless : withoutBody route r = true) {answer : QueryResult → Outcome Response}
    (run : ∀ q, s.runTable route r (preferences r) .null q =
      ((s.select route q).bind answer, s.store)) :
    (s.handle r).outcome = Response.settle ((s.result r route).bind answer) := by
  have body : requestBody route r = .ok .null := by simp [requestBody, bodiless]
  rw [handle_of_quiet h quiet, body, result]
  cases Query.read r.query (r.header? "range") with
  | error e => rfl
  | ok q => simp only [exchange, run, Except.bind]

theorem outcome_of_select (h : s.Addresses r route) (quiet : s.trigger = none)
    (kind : route.kind = .select) :
    (s.handle r).outcome = Response.settle
      ((s.result r route).bind (Response.ofRows route (preferences r) (s.shapeFor r) 200)) :=
  outcome_of_read h quiet (by simp [withoutBody, kind]) fun q => by simp only [runTable, kind]

theorem outcome_of_head (h : s.Addresses r route) (quiet : s.trigger = none)
    (kind : route.kind = .head) :
    (s.handle r).outcome = Response.settle
      ((s.result r route).bind fun result => .ok (Response.ofHead route (preferences r) result)) :=
  outcome_of_read h quiet (by simp [withoutBody, kind]) fun q => by
    simp only [runTable, kind]
    cases s.select route q <;> rfl

/-- What a read of headers alone answers, beside what the read of the rows answers. A read that is
refused for the shape of its rows differs: then their headers are answered. Nothing is told where
a surrogate in the rows keeps them from being sent. -/
inductive Heads (s : Service) (r : Request) :
    Except Fault Response → Except Fault Response → Prop where
  | faulted (fault : Fault) : Heads s r (.error fault) (.error fault)
  | mirrored {shown headed : Response} : headed.status = shown.status →
      headed.headers = shown.headers → ((∀ e, headed ≠ .ofError e) → headed.content = []) →
      Heads s r (.ok shown) (.ok headed)
  | misshapen {route : Route} {result : QueryResult} : s.Addresses r route →
      s.result r route = .ok result → (s.shapeFor r).admits result.rows.length = false →
      Heads s r (Response.settle (.error ((s.shapeFor r).refused result.rows.length)))
        (.ok (.ofHead route (preferences r) result))
  | unsent {route : Route} {result : QueryResult} {cause : Text.EncodeFault}
      {headed : Except Fault Response} : s.Addresses r route → s.result r route = .ok result →
      ¬AllWellFormed result.rows → Heads s r (.error (.encoding cause)) headed

theorem Heads.refused (failure : Failure) :
    s.Heads r (Response.settle (.error failure)) (Response.settle (.error failure)) := by
  cases failure with
  | fault fault => exact .faulted fault
  | service e => exact .mirrored rfl rfl fun unrefused => absurd rfl (unrefused e)

theorem Heads.of_result (h : s.Addresses r route) :
    s.Heads r
      (Response.settle
        ((s.result r route).bind (Response.ofRows route (preferences r) (s.shapeFor r) 200)))
      (Response.settle ((s.result r route).bind fun result =>
        .ok (Response.ofHead route (preferences r) result))) := by
  cases found : s.result r route with
  | error failure => exact .refused failure
  | ok result =>
      simp only [Except.bind, Response.ofRows]
      cases shaped : (s.shapeFor r).resolve result.rows with
      | ok v =>
          have sent := Response.jsonContent_yields v
          dsimp only
          cases content : Response.jsonContent v with
          | ok octets => exact .mirrored rfl rfl fun _ => rfl
          | error fault =>
              rw [content] at sent
              obtain ⟨⟨cause, rfl⟩, broken⟩ := sent
              refine .unsent h found fun whole => ?_
              simp [(Shape.resolve_wellFormed whole _).of_eq_ok shaped] at broken
      | error failure =>
          obtain ⟨unfit, rfl⟩ := Shape.resolve_eq_error_iff.mp shaped
          exact .misshapen h found unfit

section Mirrored

variable (mirrors : reading.Mirrors heading)

include mirrors

theorem header?_of_mirrors (name : String) : heading.header? name = reading.header? name := by
  rw [Request.header?, mirrors.headers]
  rfl

theorem result_of_mirrors (route : Route) :
    s.result heading route.toHead = s.result reading route := by
  rw [result, mirrors.query, header?_of_mirrors mirrors]
  rfl

theorem preferences_of_mirrors : preferences heading = preferences reading := by
  rw [preferences, header?_of_mirrors mirrors]
  rfl

theorem outcome_of_head_of_table (quiet : s.trigger = none)
    (addressed : s.Addresses reading route) :
    s.Heads reading (s.handle reading).outcome (s.handle heading).outcome := by
  have classified := Route.classify_heading mirrors s.settings
  rw [addressed.classified] at classified
  have heads : s.Addresses heading route.toHead :=
    ⟨by rw [mirrors.path, addressed.noFunction], classified, addressed.table⟩
  rw [outcome_of_select addressed quiet (addressed.kind_of_get mirrors.reads),
    outcome_of_head heads quiet rfl, result_of_mirrors mirrors, preferences_of_mirrors mirrors]
  exact .of_result addressed

end Mirrored

/-- HEAD answers the status and headers of GET without content, but where GET is refused for the
shape of its rows or cannot send them. -/
theorem outcome_of_head_request (quiet : s.trigger = none) (calm : s.CallsNoHandler reading)
    (mirrors : reading.Mirrors heading) :
    s.Heads reading (s.handle reading).outcome (s.handle heading).outcome := by
  cases noFunction : Route.functionName reading.path s.settings with
  | error e =>
      simp only [handle, mirrors.path, noFunction]
      exact .refused (.service e)
  | ok name =>
  cases name with
  | some name => exact absurd noFunction (calm.noFunction name)
  | none =>
  cases classified : Route.classify reading.method reading.path reading.headers s.settings with
  | error e =>
      have alike := Route.classify_heading mirrors s.settings
      rw [classified, mirrors.path] at alike
      simp only [handle, mirrors.path, noFunction, classified, alike, Except.map]
      exact .refused (.service e)
  | ok route =>
      exact outcome_of_head_of_table mirrors quiet
        ⟨noFunction, classified, calm.noProcedure route classified⟩

def singleReading : Request :=
  ⟨"GET", "/rest/v1/posts", [], [("accept", "application/vnd.pgrst.object+json")], []⟩

def singleHeading : Request :=
  { singleReading with method := "HEAD" }

theorem singleReading_addresses :
    twoPosts.Addresses singleReading ⟨.select, "public", "posts", false⟩ :=
  ⟨by rfl, by rfl, rfl⟩

theorem singleReading_mirrors : singleReading.Mirrors singleHeading :=
  ⟨by rfl, by rfl, rfl, rfl, rfl⟩

theorem outcome_of_single_head_request :
    twoPosts.Heads singleReading (twoPosts.handle singleReading).outcome
      (twoPosts.handle singleHeading).outcome :=
  outcome_of_head_request rfl singleReading_addresses.callsNoHandler singleReading_mirrors

/-- The headers of rows are answered where the rows themselves are refused. -/
theorem statuses_of_misshapen_reads :
    ¬∀ (s : Service) (reading heading : Request) (route : Route), s.trigger = none →
      s.Addresses reading route → reading.Mirrors heading → ∀ shown headed,
        (s.handle reading).outcome = .ok shown → (s.handle heading).outcome = .ok headed →
          headed.status = shown.status ∧ headed.headers = shown.headers ∧ headed.content = [] := by
  intro mirrored
  obtain ⟨shown, answered, refused⟩ : ∃ shown,
      (twoPosts.handle singleReading).outcome = .ok shown ∧ shown.status = 406 := ⟨_, by rfl, by rfl⟩
  obtain ⟨headed, answered', done⟩ : ∃ headed,
      (twoPosts.handle singleHeading).outcome = .ok headed ∧ headed.status = 200 :=
    ⟨_, by rfl, by rfl⟩
  have same := mirrored twoPosts singleReading singleHeading _ rfl singleReading_addresses
    singleReading_mirrors shown headed answered answered'
  rw [refused, done] at same
  exact absurd same.1 (by decide)

end Service

end TableServer
