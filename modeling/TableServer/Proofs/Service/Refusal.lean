import TableServer.Proofs.Query.Stages
import TableServer.Proofs.Service.Requests
import TableServer.Proofs.Table.Failures

/-! Refused requests. A request that is answered with an error leaves the store as it was, but for
one case: the rows of a write that is done may not have the shape that was asked for. No write is
taken back then. -/
namespace TableServer

theorem Failure.not_refused {α : Type} {x : Except Fault α} {e : ServiceError} :
    x.mapError Failure.fault ≠ .error (.service e) := by
  intro h
  obtain ⟨fault, -, hf⟩ := Outcome.mapError_eq_error_iff.mp h
  cases hf

namespace Store

variable {s : Store} {name : String} {payload : Value} {e : ServiceError}

theorem upsert_refused {ignore : Bool}
    (h : (s.upsert name payload ignore).1 = .error (.service e)) :
    (s.upsert name payload ignore).2 = s := by
  unfold upsert at h ⊢
  split at h
  · rfl
  · exact absurd h Failure.not_refused

theorem update_refused {predicate : Option RowPredicate}
    (h : (s.update name predicate payload).1 = .error (.service e)) :
    (s.update name predicate payload).2 = s := by
  unfold update at h ⊢
  split at h
  · rfl
  · rfl
  · split at h
    · rfl
    · dsimp only at h ⊢
      split at h
      · rename_i none_matched
        rw [if_pos none_matched]
      · exact absurd (Outcome.map_eq_error_iff.mp h) Failure.not_refused

end Store

namespace Shape

def admits : Shape → Nat → Bool
  | list, _ => true
  | single, n => n = 1
  | maybeSingle, n => n ≤ 1

theorem resolve_eq_error_iff {s : Shape} {rows : List Value} {e : Failure} :
    s.resolve rows = .error e ↔ s.admits rows.length = false ∧ e = s.refused rows.length := by
  cases s with
  | list => simp [resolve, admits]
  | single =>
      match rows with
      | [] => simp [resolve, admits, eq_comm]
      | [row] => simp [resolve, admits]
      | row :: next :: rest => simp [resolve, admits, eq_comm]
  | maybeSingle =>
      match rows with
      | [] => simp [resolve, admits]
      | [row] => simp [resolve, admits]
      | row :: next :: rest => simp [resolve, admits, eq_comm]

end Shape

namespace Response

/-- The answers of a write that is done name the table in a header, those of errors do not. -/
theorem ofMinimal_ne_ofError (route : Route) (prefs : Preferences) (status : Int)
    (result : QueryResult) (e : ServiceError) :
    ofMinimal route prefs status result ≠ ofError e := by
  intro h
  have headers := congrArg Response.headers h
  simp [ofMinimal, ofError, profile] at headers

section Rows

variable {route : Route} {prefs : Preferences} {shape : Shape} {status : Int} {result : QueryResult}

theorem ofRows_eq_ok_iff {response : Response} :
    ofRows route prefs shape status result = .ok response ↔ ∃ v content,
      shape.resolve result.rows = .ok v ∧ jsonContent v = .ok content ∧
        ⟨status, rowsHeaders route prefs result, content⟩ = response := by
  simp only [ofRows, Outcome.bind_eq_ok_iff, Outcome.map_eq_ok_iff, Outcome.mapError_eq_ok_iff,
    exists_and_left]

theorem ofRows_ne_ofError {response : Response}
    (h : ofRows route prefs shape status result = .ok response) (e : ServiceError) :
    response ≠ ofError e := by
  obtain ⟨v, content, -, -, rfl⟩ := ofRows_eq_ok_iff.mp h
  intro he
  have headers := congrArg Response.headers he
  simp [rowsHeaders, ofError, profile] at headers

theorem ofRows_refused {e : ServiceError}
    (h : ofRows route prefs shape status result = .error (.service e)) :
    shape.admits result.rows.length = false ∧
      Failure.service e = shape.refused result.rows.length := by
  rcases Outcome.bind_eq_error_iff.mp h with unfit | ⟨v, -, unsent⟩
  · exact Shape.resolve_eq_error_iff.mp unfit
  · exact absurd (Outcome.map_eq_error_iff.mp unsent) Failure.not_refused

end Rows

end Response

namespace Service

variable {s : Service} {r : Request} {route : Route}

/-- A write of a request that gives rows which do not have the shape that is asked for. -/
structure Misshapen (s : Service) (r : Request) (left : Store) (count : Nat) : Prop where
  full : (preferences r).minimal = false
  unfit : (s.shapeFor r).admits count = false
  written : ∃ route body q rows, s.Addresses r route ∧ route.kind.writes = true ∧
    requestBody route r = .ok body ∧ Query.read r.query (r.header? "range") = .ok q ∧
    s.writeTable route (preferences r) body q = (.ok rows, left) ∧ rows.length = count

theorem writeTable_refused {prefs : Preferences} {body : Value} {q : Query} {e : ServiceError}
    (h : (s.writeTable route prefs body q).1 = .error (.service e)) :
    (s.writeTable route prefs body q).2 = s.store := by
  unfold writeTable at h ⊢
  cases hk : route.kind <;> simp only [hk] at h ⊢
  case insert => exact Store.insert_failed (Outcome.map_eq_error_iff.mp h)
  case upsert => exact Store.upsert_refused (Outcome.map_eq_error_iff.mp h)
  case update => exact Store.update_refused (Outcome.map_eq_error_iff.mp h)
  case delete => exact Store.delete_failed h

theorem answerWrite_refused {q : Query} {prefs : Preferences} {status : Int} {rows : List Value}
    {e : ServiceError}
    (h : s.answerWrite route r q prefs status rows = .error (.service e)) :
    prefs.minimal = false ∧ (s.shapeFor r).admits rows.length = false ∧
      Failure.service e = (s.shapeFor r).refused rows.length := by
  unfold answerWrite at h
  split at h
  · cases h
  · rename_i full
    split at h
    · cases h
    · rename_i projected hp
      obtain ⟨unfit, he⟩ := Response.ofRows_refused h
      rw [Projection.length_rows hp] at unfit he
      exact ⟨by simpa using full, unfit, he⟩

theorem answerWrite_ne_ofError {q : Query} {prefs : Preferences} {status : Int}
    {rows : List Value} {response : Response}
    (h : s.answerWrite route r q prefs status rows = .ok response) (e : ServiceError) :
    response ≠ Response.ofError e := by
  unfold answerWrite at h
  split at h
  · cases h
    exact Response.ofMinimal_ne_ofError route prefs status _ e
  · split at h
    · cases h
    · exact Response.ofRows_ne_ofError h e

/-- A request that calls no handler and is answered with an error leaves every table as it was,
unless its write was done and gave rows of another shape than the one that was asked for. Then the
store is the one that the write left, and the error tells the shape. -/
theorem store_of_error_answer (calm : s.CallsNoHandler r) {e : ServiceError}
    (answered : (s.handle r).outcome = .ok (Response.ofError e)) :
    (s.handle r).store = s.store ∨
      ∃ count, s.Misshapen r (s.handle r).store count ∧
        (s.handle r).outcome = Response.settle (.error ((s.shapeFor r).refused count)) := by
  rcases calm.cases with ⟨failure, hr⟩ | ⟨route, addressed⟩
  · exact Or.inl (by rw [hr]; rfl)
  rcases handle_cases addressed with ⟨failure, c, hr⟩ | ⟨body, q, c, hb, hq, hr⟩
  · exact Or.inl (by rw [hr]; rfl)
  rw [hr] at answered ⊢
  cases hw : route.kind.writes with
  | false => exact Or.inl (runTable_read hw (preferences r) body q)
  | true =>
      rw [runTable_write hw] at answered ⊢
      -- The write is refused by the store, or it is done and only its answer can fail.
      cases done : s.writeTable route (preferences r) body q with
      | mk result left =>
      cases result with
      | error failure =>
          refine Or.inl ?_
          cases failure with
          | fault f => simp [finishWrite, done, exchange, Response.settle, Except.bind] at answered
          | service refusal =>
              have kept := writeTable_refused (congrArg Prod.fst done)
              rw [done] at kept
              exact kept
      | ok rows =>
          simp only [finishWrite, done, exchange, Except.bind] at answered ⊢
          cases ha : s.answerWrite route r q (preferences r) (writeStatus route.kind) rows with
          | ok response =>
              rw [ha] at answered
              exact absurd (Except.ok.inj answered) (answerWrite_ne_ofError ha e)
          | error failure =>
              cases failure with
              | fault f => simp [ha, Response.settle] at answered
              | service refusal =>
                  obtain ⟨full, unfit, told⟩ := answerWrite_refused ha
                  refine Or.inr ⟨rows.length, ⟨full, unfit, ?_⟩, by rw [told]⟩
                  exact ⟨route, body, q, rows, addressed, hw, hb, hq, done, rfl⟩

def unfilteredDeletion : Request :=
  ⟨"DELETE", "/rest/v1/posts", [], [], []⟩

theorem unfilteredDeletion_addresses :
    twoPosts.Addresses unfilteredDeletion ⟨.delete, "public", "posts", false⟩ :=
  ⟨by rfl, by rfl, rfl⟩

theorem unfilteredDeletion_answered :
    (twoPosts.handle unfilteredDeletion).outcome =
      .ok (.ofError (.ofKind .validation "DELETE requires a filter" .none
        (some "Add at least one filter to the request"))) := by
  rfl

theorem store_of_unfiltered_deletion :
    (twoPosts.handle unfilteredDeletion).store = twoPosts.store ∨
      ∃ count, twoPosts.Misshapen unfilteredDeletion (twoPosts.handle unfilteredDeletion).store count ∧
        (twoPosts.handle unfilteredDeletion).outcome =
          Response.settle (.error ((twoPosts.shapeFor unfilteredDeletion).refused count)) :=
  store_of_error_answer unfilteredDeletion_addresses.callsNoHandler unfilteredDeletion_answered

def misshapenDeletion : Request :=
  ⟨"DELETE", "/rest/v1/posts", [("id", "neq.0")],
    [("accept", "application/vnd.pgrst.object+json")], []⟩

theorem misshapenDeletion_addresses :
    twoPosts.Addresses misshapenDeletion ⟨.delete, "public", "posts", false⟩ :=
  ⟨by rfl, by rfl, rfl⟩

theorem misshapenDeletion_answered :
    (twoPosts.handle misshapenDeletion).outcome =
      .ok (.ofError ((ServiceError.ofKind (.shape "single" 2) "2 rows were found for single query"
        .none none).withDetails "The result contains 2 rows")) := by
  rfl

/-- An answer that is an error does not tell that nothing was written. -/
theorem error_answer_behind_deletion :
    ¬ ∀ (s : Service) (r : Request) (route : Route) (e : ServiceError), s.Addresses r route →
      route.kind.writes = true → (s.handle r).outcome = .ok (.ofError e) →
        (s.handle r).store = s.store := by
  intro atomic
  have kept := atomic twoPosts misshapenDeletion _ _ misshapenDeletion_addresses rfl
    misshapenDeletion_answered
  have size := congrArg (fun left => (left.rows "public.posts").length) kept
  have emptied : ((twoPosts.handle misshapenDeletion).store.rows "public.posts").length = 0 := by
    rfl
  simp only [emptied] at size
  exact absurd size (by decide)

end Service

end TableServer
