import TableServer.Proofs.Service.Refusal
import TableServer.Proofs.Service.Repetition

/-! Isolated tables. A request for one table changes no answer to a read of another. Only where the
schema of one runs on, over a dot, into the name of the other are both kept as one table. -/
namespace TableServer

namespace Store

variable {s : Store} {schema name schema' name' : String}

/-- The second schema goes on behind the first with what the first name starts with. -/
def RunsOn (schema name schema' name' : String) : Prop :=
  ∃ middle, schema' = schema ++ "." ++ middle ∧ name = middle ++ "." ++ name'

/-- Different tables that are kept under one name. -/
def Clash (schema name schema' name' : String) : Prop :=
  RunsOn schema name schema' name' ∨ RunsOn schema' name' schema name

theorem RunsOn.qualify_eq (h : RunsOn schema name schema' name') :
    qualify schema name = qualify schema' name' := by
  obtain ⟨middle, rfl, rfl⟩ := h
  simp only [qualify, String.append_assoc]

/-- Two texts with a dot behind parts of them: the parts are the same, or one runs on. -/
theorem runsOn_of_append {rest : List Char} (schemas : schema'.toList = schema.toList ++ rest)
    (names : '.' :: name.toList = rest ++ '.' :: name'.toList) :
    (schema = schema' ∧ name = name') ∨ RunsOn schema name schema' name' := by
  cases rest with
  | nil =>
      rw [List.append_nil] at schemas
      exact .inl ⟨(String.toList_inj.mp schemas).symm,
        String.toList_inj.mp (List.cons.inj names).2⟩
  | cons dot middle =>
      obtain ⟨rfl, behind⟩ := List.cons.inj names
      refine .inr ⟨String.ofList middle, String.toList_inj.mp ?_, String.toList_inj.mp ?_⟩
      · simp [schemas]
      · simp [behind]

theorem qualify_eq_iff :
    qualify schema name = qualify schema' name' ↔
      (schema = schema' ∧ name = name') ∨ Clash schema name schema' name' := by
  constructor
  · intro same
    have texts : schema.toList ++ '.' :: name.toList = schema'.toList ++ '.' :: name'.toList := by
      simpa [qualify] using congrArg String.toList same
    rcases List.append_eq_append_iff.mp texts with ⟨rest, schemas, names⟩ | ⟨rest, schemas, names⟩
    · exact (runsOn_of_append schemas names).imp_right .inl
    · exact (runsOn_of_append schemas names).imp (fun same => ⟨same.1.symm, same.2.symm⟩) .inr
  · rintro (⟨rfl, rfl⟩ | clash | clash)
    · rfl
    · exact clash.qualify_eq
    · exact clash.qualify_eq.symm

theorem not_clash_of_undotted (undotted : '.' ∉ name.toList) (undotted' : '.' ∉ name'.toList) :
    ¬Clash schema name schema' name' := by
  rintro (⟨middle, -, rfl⟩ | ⟨middle, -, rfl⟩)
  · exact undotted (by simp)
  · exact undotted' (by simp)

section OtherTables

variable {other : String} (apart : other ≠ name) {payload : Value}
  {predicate : Option RowPredicate}
include apart

theorem insert_rows_of_ne : (s.insert name payload).2.rows other = s.rows other := by
  unfold insert
  split
  · rfl
  · exact rows_put_of_ne apart s _

theorem upsert_rows_of_ne {ignore : Bool} :
    (s.upsert name payload ignore).2.rows other = s.rows other := by
  unfold upsert
  split
  · rfl
  · exact rows_put_of_ne apart s _

theorem update_rows_of_ne : (s.update name predicate payload).2.rows other = s.rows other := by
  unfold update
  split
  · rfl
  · rfl
  · split
    · rfl
    · dsimp only
      split
      · rfl
      · exact rows_put_of_ne apart s _

theorem delete_rows_of_ne : (s.delete name predicate).2.rows other = s.rows other := by
  unfold delete
  split
  · rfl
  · split
    · rfl
    · split
      · rfl
      · exact rows_put_of_ne apart s _

end OtherTables

end Store

namespace Service

variable {s : Service} {r : Request} {route : Route} {prefs : Preferences} {body : Value}
  {q : Query}

theorem writeTable_rows_of_ne {other : String} (apart : other ≠ route.qualified) :
    (s.writeTable route prefs body q).2.rows other = s.store.rows other := by
  unfold writeTable
  cases route.kind with
  | insert => exact Store.insert_rows_of_ne apart
  | upsert => exact Store.upsert_rows_of_ne apart
  | update => exact Store.update_rows_of_ne apart
  | delete => exact Store.delete_rows_of_ne apart
  | _ => rfl

theorem rows_of_ne {other : String} (h : s.Addresses r route) (apart : other ≠ route.qualified) :
    (s.handle r).store.rows other = s.store.rows other := by
  rcases handle_cases h with ⟨failure, c, refused⟩ | ⟨body, q, c, -, -, run⟩
  · rw [refused]
    rfl
  · rw [run]
    cases writes : route.kind.writes with
    | false => exact congrArg (Store.rows · other) (runTable_read writes (preferences r) body q)
    | true =>
        rw [runTable_write writes]
        exact writeTable_rows_of_ne apart

section SameRows

variable {left : Store} (same : left.rows route.qualified = s.store.rows route.qualified)
include same

theorem runTable_of_same_rows (reads : route.kind.writes = false) :
    ((s.withStore left).runTable route r prefs body q).1 = (s.runTable route r prefs body q).1 := by
  have selected : (s.withStore left).select route q = s.select route q := congrArg q.run same
  have shape : (s.withStore left).shapeFor r = s.shapeFor r := rfl
  unfold runTable
  cases kind : route.kind with
  | select => simp only [selected, shape]
  | head => simp only [selected]
  | rpc => simp only [selected, shape]
  | _ => simp [kind, RequestKind.writes] at reads

theorem outcome_of_same_rows (h : s.Addresses r route) (reads : route.kind.writes = false) :
    ((s.withStore left).handle r).outcome = (s.handle r).outcome := by
  have h' : (s.withStore left).Addresses r route := ⟨h.noFunction, h.classified, h.table⟩
  have dispatched (body : Value) :
      ((s.withStore left).dispatch route r body).1 = (s.dispatch route r body).1 := by
    rw [dispatch_table h', dispatch_table h]
    cases Query.read r.query (r.header? "range") with
    | error e => rfl
    | ok q => exact runTable_of_same_rows same reads
  have settled (body : Value) (c : Option Consultation) :
      (exchange ((s.withStore left).dispatch route r body) c).outcome =
        (exchange (s.dispatch route r body) c).outcome :=
    congrArg Response.settle (dispatched body)
  have trigger : (s.withStore left).trigger = s.trigger := rfl
  simp only [handle, h.noFunction, h.classified, h'.noFunction, h'.classified]
  cases requestBody route r with
  | error e => rfl
  | ok body =>
      simp only [handleRouted, trigger]
      cases s.trigger with
      | none => exact settled body none
      | some t =>
          dsimp only
          cases t.consult ⟨route.schema, route.name, body, route.kind⟩ with
          | error e => rfl
          | ok _ => exact settled body _

end SameRows

/-- A request for one table changes no answer to a read of another table, unless both clash. -/
theorem outcome_behind_other_table {writing reading : Request} {written read : Route}
    (writes : s.Addresses writing written) (reads : s.Addresses reading read)
    (only_reads : Route.readsOnly reading.verb = true)
    (apart : (written.schema, written.name) ≠ (read.schema, read.name))
    (unclashed : ¬Store.Clash written.schema written.name read.schema read.name) :
    ((s.behind (s.handle writing)).handle reading).outcome = (s.handle reading).outcome := by
  have names : read.qualified ≠ written.qualified := by
    intro same
    rcases Store.qualify_eq_iff.mp same.symm with ⟨schemas, tables⟩ | clash
    · exact apart (by rw [schemas, tables])
    · exact unclashed clash
  exact outcome_of_same_rows (rows_of_ne writes names) reads
    (Route.writes_of_readsOnly reads.tableKind_eq only_reads)

def archivedReading : Request :=
  ⟨"GET", "/rest/v1/posts", [], [("accept-profile", "archive")], []⟩

theorem outcome_behind_deletion_of_posts :
    ((twoPosts.behind (twoPosts.handle misshapenDeletion)).handle archivedReading).outcome =
      (twoPosts.handle archivedReading).outcome := by
  have reads : twoPosts.Addresses archivedReading ⟨.select, "archive", "posts", false⟩ :=
    ⟨by rfl, by rfl, rfl⟩
  exact outcome_behind_other_table misshapenDeletion_addresses reads (by rfl) (by simp)
    (Store.not_clash_of_undotted (by decide) (by decide))

def dottedPost : Request :=
  ⟨"POST", "/rest/v1/b.c", [], [("content-profile", "a")], firstPostAgain.body⟩

def dottedReading : Request :=
  ⟨"GET", "/rest/v1/c", [], [("accept-profile", "a.b"), ("prefer", "count=exact")], []⟩

theorem outcome_behind_post_to_dotted_table :
    ¬∀ (s : Service) (writing reading : Request) (written read : Route),
      s.Addresses writing written → written.kind.writes = true → s.Addresses reading read →
        read.kind = .select → (written.schema, written.name) ≠ (read.schema, read.name) →
          ((s.behind (s.handle writing)).handle reading).outcome = (s.handle reading).outcome := by
  intro isolated
  have writes : (ofStore {} .empty).Addresses dottedPost ⟨.insert, "a", "b.c", false⟩ :=
    ⟨by rfl, by rfl, rfl⟩
  have reads : (ofStore {} .empty).Addresses dottedReading ⟨.select, "a.b", "c", false⟩ :=
    ⟨by rfl, by rfl, rfl⟩
  have same := isolated _ dottedPost dottedReading _ _ writes rfl reads rfl (by simp)
  have written := handle_table writes rfl firstPostAgain_body (show Query.read [] none = _ by rfl)
  have again : ((ofStore {} .empty).behind ((ofStore {} .empty).handle dottedPost)).Addresses
      dottedReading ⟨.select, "a.b", "c", false⟩ := ⟨reads.noFunction, reads.classified, reads.table⟩
  rw [handle_table reads rfl rfl (show Query.read [] none = _ by rfl),
    handle_table again rfl rfl (show Query.read [] none = _ by rfl), written] at same
  -- The counts in the headers tell the answers apart.
  have counts := congrArg
    (Except.map fun response : Response => Entries.find? "content-range" response.headers) same
  have told : (Except.ok (some "0-1/1") : Except Fault (Option String)) = .ok (some "0-0/0") :=
    counts
  exact absurd told (by simp)

end Service

end TableServer
