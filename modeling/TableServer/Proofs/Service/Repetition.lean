import TableServer.Proofs.Service.Requests
import TableServer.Proofs.Table.Repetition

/-! Repeated requests. An update, a deletion and an upsert of identified rows leave a store that the
same request leaves as it is, whatever both are answered. -/
namespace TableServer

namespace Request

theorem tidy_of_jsonBody {r : Request} {body : Value} (h : r.jsonBody = .ok body) : body.Tidy := by
  unfold jsonBody at h
  split at h
  · cases h
    exact .null
  · split at h
    · cases h
    · split at h
      · rename_i read
        cases h
        exact Value.tidy_of_readText read
      · cases h
      · cases h

end Request

namespace Service

variable {s : Service} {r : Request} {route : Route}

theorem tidy_of_requestBody {body : Value} (h : requestBody route r = .ok body) : body.Tidy := by
  unfold requestBody at h
  split at h
  · cases h
    exact .null
  · exact Request.tidy_of_jsonBody h

/-- A write that may be repeated: an update, a deletion, or an upsert all of whose rows carry an
identity. -/
inductive Repeatable (route : Route) (r : Request) : Prop where
  | update : route.kind = .update → Repeatable route r
  | delete : route.kind = .delete → Repeatable route r
  | upsert : route.kind = .upsert →
      (∀ body rows, requestBody route r = .ok body → Table.payloadRows body = .ok rows →
        ∀ row ∈ rows, Table.Identifies row) → Repeatable route r

theorem Repeatable.writes (h : Repeatable route r) : route.kind.writes = true := by
  cases h with
  | update kind => rw [kind]; rfl
  | delete kind => rw [kind]; rfl
  | upsert kind _ => rw [kind]; rfl

theorem Addresses.behind (h : s.Addresses r route) (x : Exchange) :
    (s.behind x).Addresses r route :=
  ⟨h.noFunction, h.classified, h.table⟩

theorem writeTable_again (objects : ∀ name, ∀ row ∈ s.store.rows name, row.isObject = true)
    (repeatable : Repeatable route r) {body : Value} (hb : requestBody route r = .ok body)
    (prefs : Preferences) (q : Query) (x : Exchange)
    (left : x.store = (s.writeTable route prefs body q).2) :
    ((s.behind x).writeTable route prefs body q).2 = x.store := by
  have store : (s.behind x).store = x.store := rfl
  cases repeatable with
  | update kind =>
      simp only [writeTable, kind, Store.touched, store] at left ⊢
      rw [left]
      exact Store.update_again (objects _) body _
  | delete kind =>
      simp only [writeTable, kind, store] at left ⊢
      rw [left]
      exact Store.delete_again _ _ _
  | upsert kind identifies =>
      simp only [writeTable, kind, Store.touched, store] at left ⊢
      rw [left]
      refine Store.upsert_again (objects _) (fun rows hp row hr => ?_) _
      have tidy := Table.tidy_of_payloadRows (tidy_of_requestBody hb) hp row hr
      obtain ⟨present, free⟩ := identifies body rows hb hp row hr
      cases tidy with
      | object unique members =>
          exact ⟨unique, ⟨free, (Value.Tidy.object unique members).find? _⟩, present⟩

/-- Repeating a write has no further effect on the store. -/
theorem store_of_repeated_write (objects : ∀ name, ∀ row ∈ s.store.rows name, row.isObject = true)
    (addressed : s.Addresses r route) (repeatable : Repeatable route r) :
    ((s.behind (s.handle r)).handle r).store = (s.handle r).store := by
  rcases handle_cases addressed with ⟨failure, c, refused⟩ | ⟨body, q, c, hb, hq, run⟩
  · have same : s.behind (s.handle r) = s := by rw [refused]; rfl
    rw [same]
  rcases handle_cases (addressed.behind (s.handle r)) with ⟨failure, c', refused⟩ |
    ⟨body', q', c', hb', hq', again⟩
  · rw [refused]
    rfl
  cases hb.symm.trans hb'
  cases hq.symm.trans hq'
  have left : (s.handle r).store = (s.writeTable route (preferences r) body q).2 := by
    rw [run, runTable_write repeatable.writes]
    rfl
  rw [again, runTable_write repeatable.writes]
  exact writeTable_again objects repeatable hb (preferences r) q _ left

def firstPostAgain : Request :=
  ⟨"POST", "/rest/v1/posts", [], [("prefer", "resolution=merge-duplicates")],
    [123, 34, 105, 100, 34, 58, 49, 125]⟩

theorem firstPostAgain_body : firstPostAgain.jsonBody = .ok (.object [("id", .ofInt 1)]) := by
  have text : Value.readText ['\x7b', '"', 'i', 'd', '"', ':', '1', '\x7d'] =
      .ok (.object [("id", .ofInt 1)]) :=
    @Value.readText_member ['i', 'd'] _
      fun start => by simp [Value.readString, Except.map, CodePoint.toNat]
  have decoded : Text.decodeDetected firstPostAgain.body =
      .ok ['\x7b', '"', 'i', 'd', '"', ':', '1', '\x7d'] := by rfl
  have filled : firstPostAgain.body.all Request.isBlankOctet = false := by rfl
  simp only [Request.jsonBody, decoded, filled, text, Bool.false_eq_true, if_false]

theorem store_of_repeated_first_post :
    ((twoPosts.behind (twoPosts.handle firstPostAgain)).handle firstPostAgain).store =
      (twoPosts.handle firstPostAgain).store := by
  have addressed : twoPosts.Addresses firstPostAgain ⟨.upsert, "public", "posts", false⟩ :=
    ⟨by rfl, rfl, rfl⟩
  refine store_of_repeated_write twoPosts_objects addressed
    (.upsert rfl fun body rows hb hp row hr => ?_)
  have read : requestBody ⟨.upsert, "public", "posts", false⟩ firstPostAgain =
      firstPostAgain.jsonBody := rfl
  rw [read, firstPostAgain_body] at hb
  cases hb
  cases hp
  obtain rfl := List.mem_singleton.mp hr
  exact ⟨rfl, .number rfl⟩

end Service

end TableServer
