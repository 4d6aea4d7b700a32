import TableServer.Proofs.Query.Pages
import TableServer.Proofs.Service.Refusal

/-! Calls of procedures. A call is refused before its handler is run, or the handler is run and what
it writes stays, whatever is answered. The query of a call is read last, over the rows that the
handler gave: only there may a malformed request be refused behind the writes. -/
namespace TableServer

theorem Response.refusal_of_settle {run : Outcome Response} {e : ServiceError}
    (unlike : ∀ response, run = .ok response → response ≠ .ofError e)
    (h : settle run = .ok (.ofError e)) :
    ∃ refusal, run = .error (.service refusal) ∧ ofError refusal = ofError e := by
  cases run with
  | ok response => exact absurd (Except.ok.inj h) (unlike response rfl)
  | error failure =>
      cases failure with
      | fault fault => cases h
      | service refusal => exact ⟨refusal, rfl, Except.ok.inj h⟩

namespace Service

variable {s : Service} {r : Request} {route : Route}

/-- A POST that reaches neither an edge function nor a table. -/
structure CallsProcedure (s : Service) (r : Request) : Prop where
  posted : r.method = "POST"
  noFunction : ∀ name, Route.functionName r.path s.settings ≠ .ok (some name)
  procedure : ∀ route, Route.classify r.method r.path r.headers s.settings = .ok route →
    route.rpc = true

/-- What the handler of a call gives for the parameters that the body tells, with the store that it
leaves. -/
structure Gives (s : Service) (r : Request) (route : Route) (given : Effect Reply) : Prop where
  classified : Route.classify r.method r.path r.headers s.settings = .ok route
  called : ∃ body parameters, requestBody route r = .ok body ∧
    procedureParameters r body = .ok parameters ∧
    s.procedures.invoke route.name parameters s.store = given

theorem CallsProcedure.kind_eq (h : s.CallsProcedure r)
    (classified : Route.classify r.method r.path r.headers s.settings = .ok route) :
    route.kind = .rpc := by
  have procedure := h.procedure route classified
  have verb : String.ofList (Text.upper r.method.toList) = "POST" := by
    rw [h.posted]
    rfl
  unfold Route.classify at classified
  rw [verb] at classified
  dsimp only at classified
  split at classified
  · cases classified
  · cases classified
  · split at classified
    · split at classified
      · cases classified
      · cases classified
        rfl
    · obtain ⟨kind, -, rfl⟩ := Outcome.map_eq_ok_iff.mp classified
      cases procedure

theorem runProcedure_cases
    (classified : Route.classify r.method r.path r.headers s.settings = .ok route) {body : Value}
    (read : requestBody route r = .ok body) (prefs : Preferences) :
    (∃ e, s.runProcedure route r prefs body = (.error e, s.store)) ∨
      ∃ given, s.Gives r route given ∧ s.runProcedure route r prefs body =
        (given.1.bind (s.answerProcedure route r prefs), given.2) := by
  unfold runProcedure
  cases told : procedureParameters r body with
  | error e => exact .inl ⟨e, rfl⟩
  | ok parameters => exact .inr ⟨_, ⟨classified, body, parameters, read, told, rfl⟩, rfl⟩

theorem CallsProcedure.cases (h : s.CallsProcedure r) :
    (∃ e c, s.handle r = s.refuse e c) ∨
      ∃ route given c, s.Gives r route given ∧
        s.handle r = exchange
          (given.1.bind (s.answerProcedure route r (preferences r)), given.2) c := by
  rcases routed_cases h.noFunction with ⟨e, refused⟩ | ⟨route, noFunction, classified⟩
  · exact .inl ⟨e, none, refused⟩
  cases read : requestBody route r with
  | error e => exact .inl ⟨e, none, by simp [handle, noFunction, classified, read]⟩
  | ok body =>
  have routed : s.handle r = s.handleRouted route r body := by
    simp only [handle, noFunction, classified, read]
  have dispatched : s.dispatch route r body = s.runProcedure route r (preferences r) body := by
    unfold dispatch
    rw [h.kind_eq classified]
    rfl
  rw [routed]
  rcases s.handleRouted_cases route r body with refused | ⟨c, run⟩
  · exact .inl refused
  rw [run, dispatched]
  rcases runProcedure_cases classified read (preferences r) with ⟨e, refused⟩ | ⟨given, gives, done⟩
  · rw [refused]
    exact .inl ⟨e, c, rfl⟩
  · rw [done]
    exact .inr ⟨route, given, c, gives, rfl⟩

/-- The answer to a call is refused only where the handler gave rows: by the query, or for the shape
of the rows that the query gives. -/
theorem answerProcedure_refused (posted : r.method = "POST") {prefs : Preferences} {reply : Reply}
    {e : ServiceError} (h : s.answerProcedure route r prefs reply = .error (.service e)) :
    ∃ rows, reply.rows? = some rows ∧
      (Query.answer r.query (r.header? "range") rows = .error (.service e) ∨
        ∃ count, Failure.service e = (s.shapeFor r).refused count) := by
  unfold answerProcedure at h
  rw [if_pos posted] at h
  cases given : reply.rows? with
  | none =>
      rw [given] at h
      exact absurd (Outcome.map_eq_error_iff.mp h) Failure.not_refused
  | some rows =>
      simp only [given] at h
      refine ⟨rows, rfl, ?_⟩
      rcases Outcome.bind_eq_error_iff.mp h with unread | ⟨q, read, h⟩
      · exact .inl (Outcome.bind_eq_error_iff.mpr (.inl unread))
      rcases Outcome.bind_eq_error_iff.mp h with unrun | ⟨result, -, h⟩
      · exact .inl (Outcome.bind_eq_error_iff.mpr (.inr ⟨q, read, unrun⟩))
      · exact .inr ⟨_, (Response.ofRows_refused h).2⟩

theorem answerProcedure_ne_ofError {prefs : Preferences} {reply : Reply} {response : Response}
    (h : s.answerProcedure route r prefs reply = .ok response) (e : ServiceError) :
    response ≠ Response.ofError e := by
  unfold answerProcedure at h
  split at h
  · obtain ⟨q, -, answered⟩ := Outcome.bind_eq_ok_iff.mp h
    obtain ⟨result, -, shown⟩ := Outcome.bind_eq_ok_iff.mp answered
    exact Response.ofRows_ne_ofError shown e
  · obtain ⟨content, -, rfl⟩ := Outcome.map_eq_ok_iff.mp h
    intro same
    have headers := congrArg Response.headers same
    simp [Response.ofError, Response.profile] at headers

/-- The rows that a handler gave are refused by the query of the call, which is malformed or asks
for a relation that the rows do not hold. -/
def RefusedByQuery (r : Request) (reply : Reply) (response : Response) : Prop :=
  ∃ rows e, reply.rows? = some rows ∧
    Query.answer r.query (r.header? "range") rows = .error (.service e) ∧
    response = Response.ofError e

/-- A call that is answered as a malformed request, by an error that its handler did not raise,
leaves the store as it was, unless the handler gave rows that the query of the call refuses. Then
what the handler wrote stays. -/
theorem store_of_malformed_call (calls : s.CallsProcedure r) {e : ServiceError}
    (answered : (s.handle r).outcome = .ok (.ofError e)) (malformed : e.status = 400)
    (unraised : ∀ route given, s.Gives r route given → ∃ reply, given.1 = .ok reply) :
    (s.handle r).store = s.store ∨
      ∃ route reply, s.Gives r route (.ok reply, (s.handle r).store) ∧
        RefusedByQuery r reply (.ofError e) := by
  rcases calls.cases with ⟨failure, c, refused⟩ | ⟨route, ⟨result, left⟩, c, gives, done⟩
  · exact .inl (by rw [refused]; rfl)
  obtain ⟨reply, rfl⟩ : ∃ reply, result = .ok reply := unraised route _ gives
  have settled : Response.settle (s.answerProcedure route r (preferences r) reply) =
      .ok (.ofError e) := by
    rw [done] at answered
    exact answered
  obtain ⟨refusal, failed, same⟩ := Response.refusal_of_settle
    (fun response told => answerProcedure_ne_ofError told e) settled
  rw [done]
  refine .inr ⟨route, reply, gives, ?_⟩
  obtain ⟨rows, given, query | ⟨count, shape⟩⟩ := answerProcedure_refused calls.posted failed
  · exact ⟨rows, refusal, given, query, same.symm⟩
  · cases shape
    have status : (406 : Int) = e.status := congrArg Response.status same
    rw [malformed] at status
    exact absurd status (by decide)

def clearedPosts : Service :=
  { twoPosts with
    procedures := [("clear", Script.procedure (.delete "public.posts" [("id", "neq.0")]))] }

def misspeltCall : Request :=
  ⟨"POST", "/rest/v1/rpc/clear", [("id", "approx.1")], [], []⟩

theorem misspeltCall_calls : clearedPosts.CallsProcedure misspeltCall := by
  have noFunction : Route.functionName misspeltCall.path clearedPosts.settings = .ok none := by rfl
  have classified : Route.classify misspeltCall.method misspeltCall.path misspeltCall.headers
      clearedPosts.settings = .ok ⟨.rpc, "public", "clear", true⟩ := by rfl
  refine ⟨rfl, fun name told => ?_, fun route told => ?_⟩
  · cases noFunction.symm.trans told
  · cases classified.symm.trans told
    rfl

theorem misspeltCall_answered : ∃ e, (clearedPosts.handle misspeltCall).outcome =
    .ok (.ofError e) ∧ e.status = 400 ∧ e.code = "PGRST100" :=
  ⟨_, by rfl, by rfl, by rfl⟩

theorem misspeltCall_unraised (route : Route) (given : Effect Reply)
    (gives : clearedPosts.Gives misspeltCall route given) : ∃ reply, given.1 = .ok reply := by
  obtain ⟨classified, body, parameters, read, told, rfl⟩ := gives
  have route_eq : Route.classify misspeltCall.method misspeltCall.path misspeltCall.headers
      clearedPosts.settings = .ok ⟨.rpc, "public", "clear", true⟩ := by rfl
  cases route_eq.symm.trans classified
  cases read
  cases told
  exact ⟨_, by rfl⟩

theorem store_of_misspelt_call : ∃ e, (clearedPosts.handle misspeltCall).outcome =
    .ok (.ofError e) ∧ ((clearedPosts.handle misspeltCall).store = clearedPosts.store ∨
      ∃ route reply, clearedPosts.Gives misspeltCall route
          (.ok reply, (clearedPosts.handle misspeltCall).store) ∧
        RefusedByQuery misspeltCall reply (.ofError e)) := by
  obtain ⟨e, answered, malformed, -⟩ := misspeltCall_answered
  exact ⟨e, answered, store_of_malformed_call misspeltCall_calls answered malformed
    misspeltCall_unraised⟩

/-- A malformed query does not tell that the handler wrote nothing. -/
theorem deletion_behind_misspelt_call :
    ¬∀ (s : Service) (r : Request) (e : ServiceError), s.CallsProcedure r →
      (s.handle r).outcome = .ok (.ofError e) → e.status = 400 → e.code = "PGRST100" →
        (∀ route given, s.Gives r route given → ∃ reply, given.1 = .ok reply) →
          (s.handle r).store = s.store := by
  intro harmless
  obtain ⟨e, answered, status, code⟩ := misspeltCall_answered
  have kept := harmless clearedPosts misspeltCall e misspeltCall_calls answered status code
    misspeltCall_unraised
  have size := congrArg (fun left => (left.rows "public.posts").length) kept
  have emptied : ((clearedPosts.handle misspeltCall).store.rows "public.posts").length = 0 := by rfl
  simp only [emptied] at size
  exact absurd size (by decide)

end Service

end TableServer
