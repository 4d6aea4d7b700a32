import TableServer.Proofs.Query.Parameters
import TableServer.Proofs.Query.Sending
import TableServer.Proofs.Service.Requests
import TableServer.Proofs.Value.Reader
import TableServer.Proofs.Value.StringReader

/-! Reads and writes by the same filters. A deletion and an update touch the rows that a read with
the same parameters gives, and no others. -/
namespace TableServer

open RowPredicate

theorem Filter.conjoin_of_ne_nil {filters : List Filter} (h : filters ≠ []) :
    ∃ f, conjoin filters = some f := by
  match filters with
  | [] => exact absurd rfl h
  | [f] => exact ⟨f, rfl⟩
  | f :: g :: rest => exact ⟨conjunction (f :: g :: rest), rfl⟩

namespace Query

def chooses (q : Query) (row : Value) : Bool :=
  q.scope.predicate?.elim true fun f => RowPredicate.chooses f.holds row

/-- What parameters that filter the rows are read as. -/
structure Selects (q : Query) (f : Filter) : Prop where
  predicate : q.scope.predicate? = some f
  projection : q.projection = .everything
  chooses_eq : q.chooses = RowPredicate.chooses f.holds
  run_iff : ∀ {rows : List Value} {result : QueryResult},
    (∀ row ∈ rows, row.isObject = true) →
      (q.run rows = .ok result ↔ DecidesAll f.holds rows ∧
        ⟨rows.filter q.chooses, (rows.filter q.chooses).length, 0⟩ = result)

theorem Selects.predicateOf_eq {q : Query} {f : Filter} (h : q.Selects f) :
    Service.predicateOf q = some f.holds := by
  rw [Service.predicateOf, h.predicate]
  rfl

theorem selects_of_read {pairs : List (String × String)} (some_pair : pairs ≠ [])
    (plain : ∀ pair ∈ pairs, Parameter.FiltersRows pair.1) {q : Query}
    (h : read pairs none = .ok q) : ∃ f, q.Selects f := by
  obtain ⟨filters, size, rfl⟩ := read_filters plain h
  have some_filter : filters ≠ [] := by
    rintro rfl
    exact some_pair (List.length_eq_zero_iff.mp size.symm)
  obtain ⟨f, joined⟩ := Filter.conjoin_of_ne_nil some_filter
  have predicate : (ofScope ⟨filters, [], .whole⟩).scope.predicate? = some f := joined
  have chosen : (ofScope ⟨filters, [], .whole⟩).chooses = RowPredicate.chooses f.holds := by
    funext row
    rw [chooses, predicate]
    rfl
  refine ⟨f, predicate, rfl, chosen, fun objects => ?_⟩
  rw [chosen]
  exact run_filters joined objects

end Query

namespace Exchange

/-- An exchange that sends rows as a list. Only a surrogate in them keeps them from being
answered. -/
structure Gives (x : Exchange) (rows : List Value) : Prop where
  sent : ∃ headers, x.outcome =
    (Response.jsonContent (.array rows)).map fun content => ⟨200, headers, content⟩
  answered : AllWellFormed rows → ∃ response, x.outcome = .ok response

theorem gives_of_list {x : Exchange} (route : Route) (prefs : Preferences) (result : QueryResult)
    (h : x.outcome = Response.settle (Response.ofRows route prefs .list 200 result)) :
    x.Gives result.rows := by
  have sent : x.outcome = (Response.jsonContent (.array result.rows)).map fun content =>
      ⟨200, Response.rowsHeaders route prefs result, content⟩ := by
    rw [h, Response.ofRows, Shape.resolve, Except.bind]
    cases Response.jsonContent (.array result.rows) <;> rfl
  refine ⟨⟨_, sent⟩, fun whole => ?_⟩
  have listed : (Value.array result.rows).wellFormed = true := Value.allWellFormed_iff.mpr whole
  rw [sent, Response.jsonContent_of_wellFormed listed]
  exact ⟨_, rfl⟩

def Refuses (x : Exchange) (status : Int) : Prop :=
  ∃ e, x.outcome = .ok (Response.ofError e) ∧ e.status = status

end Exchange

namespace Service

/-- A request for a table with the parameters of a query alone, answered by a list of rows. -/
structure Asks (s : Service) (kind : RequestKind) (schema name : String)
    (pairs : List (String × String)) (r : Request) : Prop where
  addresses : s.Addresses r ⟨kind, schema, name, false⟩
  query : r.query = pairs
  rangeless : r.header? "range" = none
  listed : s.shapeFor r = .list
  full : kind.writes = true → (preferences r).minimal = false

variable {s : Service} {r : Request} {kind : RequestKind} {schema name : String}
  {pairs : List (String × String)} {q : Query} {f : Filter} {result : QueryResult}
  {patch : Members}

theorem Asks.read (h : s.Asks kind schema name pairs r) (hq : Query.read pairs none = .ok q) :
    Query.read r.query (r.header? "range") = .ok q := by
  rw [h.query, h.rangeless, hq]

theorem handle_select (asked : s.Asks .select schema name pairs r) (quiet : s.trigger = none)
    (hq : Query.read pairs none = .ok q)
    (hr : q.run (s.store.rows (Store.qualify schema name)) = .ok result) :
    (s.handle r).Gives result.rows ∧ (s.handle r).store = s.store := by
  have given : s.select ⟨.select, schema, name, false⟩ q = .ok result := hr
  rw [handle_table asked.addresses quiet rfl (asked.read hq)]
  refine ⟨Exchange.gives_of_list ⟨.select, schema, name, false⟩ (preferences r) result ?_, rfl⟩
  simp only [exchange, runTable, given, asked.listed, Except.bind]

theorem gives_of_finishWrite {route : Route} {rows : List Value} {left : Store}
    (listed : s.shapeFor r = .list) (full : (preferences r).minimal = false)
    (columns : q.projection = .everything) (objects : ∀ row ∈ rows, row.isObject = true) :
    (exchange (s.finishWrite route r q (preferences r) 200 (.ok rows, left)) none).Gives rows := by
  refine Exchange.gives_of_list route (preferences r) ⟨rows, rows.length, 0⟩ ?_
  simp only [exchange, finishWrite, answerWrite, full, columns, listed, Except.bind,
    Projection.everything_rows objects, Bool.false_eq_true, if_false]

theorem handle_delete (asked : s.Asks .delete schema name pairs r) (quiet : s.trigger = none)
    (hq : Query.read pairs none = .ok q) (selects : q.Selects f)
    (objects : ∀ row ∈ s.store.rows (Store.qualify schema name), row.isObject = true)
    (decided : DecidesAll f.holds (s.store.rows (Store.qualify schema name))) :
    (s.handle r).Gives ((s.store.rows (Store.qualify schema name)).filter q.chooses) ∧
      (s.handle r).store.rows (Store.qualify schema name) =
        (s.store.rows (Store.qualify schema name)).filter (!q.chooses ·) ∧
      ∀ other, other ≠ Store.qualify schema name →
        (s.handle r).store.rows other = s.store.rows other := by
  obtain ⟨left, deleted, kept, others⟩ := Store.delete_choice decided
  rw [← selects.chooses_eq] at deleted kept
  have written : s.writeTable ⟨.delete, schema, name, false⟩ (preferences r) .null q =
      (.ok ((s.store.rows (Store.qualify schema name)).filter q.chooses), left) := by
    rw [← deleted, ← selects.predicateOf_eq]
    rfl
  rw [handle_table asked.addresses quiet rfl (asked.read hq), runTable_write rfl, written]
  refine ⟨?_, kept, others⟩
  exact gives_of_finishWrite asked.listed (asked.full rfl) selects.projection
    fun row hr => objects row (List.mem_filter.mp hr).1

theorem handle_update_of_no_choice (asked : s.Asks .update schema name pairs r)
    (quiet : s.trigger = none) (body : r.jsonBody = .ok (.object patch))
    (hq : Query.read pairs none = .ok q) (selects : q.Selects f)
    (decided : DecidesAll f.holds (s.store.rows (Store.qualify schema name)))
    (empty : (s.store.rows (Store.qualify schema name)).filter q.chooses = []) :
    (s.handle r).Refuses 404 ∧ (s.handle r).store = s.store := by
  rw [selects.chooses_eq] at empty
  have written : s.writeTable ⟨.update, schema, name, false⟩ (preferences r) (.object patch) q =
      (.error (Store.nothingMatched (Store.qualify schema name)), s.store) := by
    change Store.touched _ (s.store.update _ (predicateOf q) (.object patch)) = _
    rw [selects.predicateOf_eq]
    exact congrArg _ (Store.update_of_no_choice decided empty patch)
  rw [handle_table asked.addresses quiet body (asked.read hq), runTable_write rfl, written]
  exact ⟨⟨_, rfl, rfl⟩, rfl⟩

theorem handle_update (asked : s.Asks .update schema name pairs r) (quiet : s.trigger = none)
    (body : r.jsonBody = .ok (.object patch)) (hq : Query.read pairs none = .ok q)
    (selects : q.Selects f)
    (objects : ∀ row ∈ s.store.rows (Store.qualify schema name), row.isObject = true)
    (decided : DecidesAll f.holds (s.store.rows (Store.qualify schema name)))
    (found : (s.store.rows (Store.qualify schema name)).filter q.chooses ≠ []) :
    (s.handle r).Gives
        (((s.store.rows (Store.qualify schema name)).filter q.chooses).map (Value.patched patch)) ∧
      (s.handle r).store = s.store.put (Store.qualify schema name)
        ((s.store.rows (Store.qualify schema name)).map fun row =>
          if q.chooses row then row.patched patch else row) := by
  have touched := Store.update_choice decided objects (selects.chooses_eq ▸ found) patch
  rw [← selects.chooses_eq, ← selects.predicateOf_eq] at touched
  have written : s.writeTable ⟨.update, schema, name, false⟩ (preferences r) (.object patch) q =
      (.ok (((s.store.rows (Store.qualify schema name)).filter q.chooses).map
        (Value.patched patch)), _) := touched
  rw [handle_table asked.addresses quiet body (asked.read hq), runTable_write rfl, written]
  refine ⟨gives_of_finishWrite asked.listed (asked.full rfl) selects.projection ?_, rfl⟩
  intro row hr
  obtain ⟨old, ho, rfl⟩ := List.mem_map.mp hr
  exact Value.isObject_patched (objects old (List.mem_filter.mp ho).1) patch

theorem Asks.behind (h : s.Asks kind schema name pairs r) (x : Exchange) :
    (s.behind x).Asks kind schema name pairs r :=
  ⟨⟨h.addresses.noFunction, h.addresses.classified, h.addresses.table⟩, h.query, h.rangeless,
    h.listed, h.full⟩

/-- Parameters that filter the rows of a table read, delete and update the same rows. What they
read is what they delete, nothing of it is left behind, and the others stay in their order. What
they update is what they read, with the patch merged in place; where they read nothing they are
refused and nothing changes. -/
theorem same_rows_by_filters {deletion update : Request} (quiet : s.trigger = none)
    (objects : ∀ row ∈ s.store.rows (Store.qualify schema name), row.isObject = true)
    (some_pair : pairs ≠ []) (plain : ∀ pair ∈ pairs, Parameter.FiltersRows pair.1)
    (parsed : Query.read pairs none = .ok q)
    (evaluated : q.run (s.store.rows (Store.qualify schema name)) = .ok result)
    (reads : s.Asks .select schema name pairs r)
    (deletes : s.Asks .delete schema name pairs deletion)
    (updates : s.Asks .update schema name pairs update)
    (body : update.jsonBody = .ok (.object patch)) :
    let table := Store.qualify schema name
    result.rows = (s.store.rows table).filter q.chooses ∧
    ((s.handle r).Gives result.rows ∧ (s.handle r).store = s.store) ∧
    ((s.handle deletion).Gives result.rows ∧
      (s.handle deletion).store.rows table = (s.store.rows table).filter (!q.chooses ·) ∧
      (∀ other, other ≠ table → (s.handle deletion).store.rows other = s.store.rows other) ∧
      ((s.behind (s.handle deletion)).handle r).Gives []) ∧
    (result.rows = [] → (s.handle update).Refuses 404 ∧ (s.handle update).store = s.store) ∧
    (result.rows ≠ [] → (s.handle update).Gives (result.rows.map (Value.patched patch)) ∧
      (s.handle update).store.rows table =
        ((s.store.rows table).map fun row => if q.chooses row then row.patched patch else row) ∧
      ∀ other, other ≠ table → (s.handle update).store.rows other = s.store.rows other) := by
  intro table
  obtain ⟨f, selects⟩ := Query.selects_of_read some_pair plain parsed
  obtain ⟨decided, rfl⟩ := (selects.run_iff objects).mp evaluated
  obtain ⟨removed, kept, others⟩ := handle_delete deletes quiet parsed selects objects decided
  refine ⟨rfl, handle_select reads quiet parsed evaluated, ⟨removed, kept, others, ?_⟩, ?_, ?_⟩
  · -- No row that is left is chosen.
    have none_left : ((s.store.rows table).filter (!q.chooses ·)).filter q.chooses = [] := by
      simp [List.filter_filter]
    have again : q.run ((s.behind (s.handle deletion)).store.rows table) = .ok ⟨[], 0, 0⟩ := by
      change q.run ((s.handle deletion).store.rows table) = _
      rw [kept, selects.run_iff fun row hr => objects row (List.mem_filter.mp hr).1, none_left]
      exact ⟨decided.filter _, rfl⟩
    exact (handle_select (reads.behind _) quiet parsed again).1
  · intro empty
    exact handle_update_of_no_choice updates quiet body parsed selects decided empty
  · intro found
    obtain ⟨given, left⟩ := handle_update updates quiet body parsed selects objects decided found
    rw [left]
    exact ⟨given, Store.rows_put_self _ _ _, fun other ho => Store.rows_put_of_ne ho _ _⟩

def firstPost : List (String × String) :=
  [("id", "eq.1")]

theorem firstPost_filters : ∀ pair ∈ firstPost, Parameter.FiltersRows pair.1 := by
  simp [firstPost, Parameter.FiltersRows, reservedKeys]

def firstPostQuery : Query :=
  .ofScope ⟨[.condition ⟨"id", "1", .equals "1"⟩], [], .whole⟩

theorem firstPost_read : Query.read firstPost none = .ok firstPostQuery := by
  rfl

theorem firstPost_run :
    firstPostQuery.run (twoPosts.store.rows (Store.qualify "public" "posts")) =
      .ok ⟨[.object [("id", .ofInt 1)]], 1, 0⟩ := by
  rfl

def forFirstPost (method : String) (body : Text.Octets) : Request :=
  ⟨method, "/rest/v1/posts", firstPost, [], body⟩

theorem forFirstPost_asks {method : String} {kind : RequestKind}
    (classified : Route.classify method "/rest/v1/posts" [] twoPosts.settings =
      .ok ⟨kind, "public", "posts", false⟩) (body : Text.Octets) :
    twoPosts.Asks kind "public" "posts" firstPost (forFirstPost method body) := by
  have noFunction : Route.functionName "/rest/v1/posts" twoPosts.settings = .ok none := by rfl
  exact ⟨⟨noFunction, classified, rfl⟩, rfl, rfl, rfl, fun _ => rfl⟩

def marking : Request :=
  forFirstPost "PATCH" [123, 34, 97, 34, 58, 49, 125]

theorem marking_body : marking.jsonBody = .ok (.object [("a", .ofInt 1)]) := by
  have text : Value.readText ['\x7b', '"', 'a', '"', ':', '1', '\x7d'] =
      .ok (.object [("a", .ofInt 1)]) :=
    @Value.readText_member ['a'] _ fun start => by
      simp [Value.readString, Except.map, CodePoint.toNat]
  have decoded : Text.decodeDetected marking.body =
      .ok ['\x7b', '"', 'a', '"', ':', '1', '\x7d'] := by rfl
  have filled : marking.body.all Request.isBlankOctet = false := by rfl
  simp only [Request.jsonBody, decoded, filled, text, Bool.false_eq_true, if_false]

theorem same_rows_by_filters_of_first_post :
    let reading := forFirstPost "GET" []
    let deletion := forFirstPost "DELETE" []
    let q := firstPostQuery
    let first : Value := .object [("id", .ofInt 1)]
    let patch : Members := [("a", .ofInt 1)]
    [first] = (twoPosts.store.rows "public.posts").filter q.chooses ∧
    ((twoPosts.handle reading).Gives [first] ∧ (twoPosts.handle reading).store = twoPosts.store) ∧
    ((twoPosts.handle deletion).Gives [first] ∧
      (twoPosts.handle deletion).store.rows "public.posts" =
        (twoPosts.store.rows "public.posts").filter (!q.chooses ·) ∧
      (∀ other, other ≠ "public.posts" →
        (twoPosts.handle deletion).store.rows other = twoPosts.store.rows other) ∧
      ((twoPosts.behind (twoPosts.handle deletion)).handle reading).Gives []) ∧
    ([first] = [] → (twoPosts.handle marking).Refuses 404 ∧
      (twoPosts.handle marking).store = twoPosts.store) ∧
    ([first] ≠ [] →
      (twoPosts.handle marking).Gives ([first].map (Value.patched patch)) ∧
      (twoPosts.handle marking).store.rows "public.posts" =
        ((twoPosts.store.rows "public.posts").map fun row =>
          if q.chooses row then row.patched patch else row) ∧
      ∀ other, other ≠ "public.posts" →
        (twoPosts.handle marking).store.rows other = twoPosts.store.rows other) := by
  intro reading deletion q first patch
  exact same_rows_by_filters rfl (twoPosts_objects _) (by decide) firstPost_filters firstPost_read
    firstPost_run (forFirstPost_asks (by rfl) _) (forFirstPost_asks (by rfl) _)
    (forFirstPost_asks (by rfl) _) marking_body

def breaking : Request :=
  forFirstPost "PATCH" [123, 34, 92, 117, 100, 56, 48, 48, 34, 58, 49, 125]

theorem breaking_body : breaking.jsonBody = .ok (.object [([.surrogate 0], .ofInt 1)]) := by
  have text : Value.readText
      ['\x7b', '"', '\\', 'u', 'd', '8', '0', '0', '"', ':', '1', '\x7d'] =
      .ok (.object [([.surrogate 0], .ofInt 1)]) :=
    Value.readText_member fun start => by
      have escape : Value.readEscape start ['u', 'd', '8', '0', '0', '"', ':', '1', '\x7d'] =
          .ok (.surrogate 0, ['"', ':', '1', '\x7d']) := by rfl
      rw [Value.readString_escape escape, Value.readString]
      rfl
  have decoded : Text.decodeDetected breaking.body =
      .ok ['\x7b', '"', '\\', 'u', 'd', '8', '0', '0', '"', ':', '1', '\x7d'] := by rfl
  have filled : breaking.body.all Request.isBlankOctet = false := by rfl
  simp only [Request.jsonBody, decoded, filled, text, Bool.false_eq_true, if_false]

/-- A row that is found and updated is not answered where the patch brings half a pair. -/
theorem unanswered_update_of_surrogate :
    ¬∀ (s : Service) (schema name : String) (pairs : List (String × String)) (q : Query)
      (result : QueryResult) (patch : Members) (update : Request), s.trigger = none →
      (∀ row ∈ s.store.rows (Store.qualify schema name), row.isObject = true) → pairs ≠ [] →
      (∀ pair ∈ pairs, Parameter.FiltersRows pair.1) → Query.read pairs none = .ok q →
      q.run (s.store.rows (Store.qualify schema name)) = .ok result → result.rows ≠ [] →
      s.Asks .update schema name pairs update → update.jsonBody = .ok (.object patch) →
      ∃ response, (s.handle update).outcome = .ok response := by
  intro answered
  obtain ⟨response, told⟩ := answered twoPosts "public" "posts" firstPost _ _ _ breaking rfl
    (twoPosts_objects _) (by decide) firstPost_filters firstPost_read firstPost_run (by simp)
    (forFirstPost_asks (by rfl) _) breaking_body
  obtain ⟨f, selects⟩ := Query.selects_of_read (by decide) firstPost_filters firstPost_read
  obtain ⟨decided, run⟩ := (selects.run_iff (twoPosts_objects _)).mp firstPost_run
  have found : (twoPosts.store.rows (Store.qualify "public" "posts")).filter
      firstPostQuery.chooses = [.object [("id", .ofInt 1)]] := congrArg QueryResult.rows run
  have given := (handle_update (forFirstPost_asks (by rfl) _) rfl breaking_body firstPost_read selects
    (twoPosts_objects _) decided (by simp [found])).1
  obtain ⟨headers, sent⟩ := given.sent
  obtain ⟨fault, unsent⟩ : ∃ fault, Response.jsonContent
      (.array [.object [("id", .ofInt 1), ([.surrogate 0], .ofInt 1)]]) = .error fault :=
    ⟨_, by rfl⟩
  rw [found] at sent
  cases (sent.trans (congrArg _ unsent)).symm.trans told

end Service

end TableServer
