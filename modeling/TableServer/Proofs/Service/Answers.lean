import TableServer.Proofs.Query.Columns
import TableServer.Proofs.Service.Requests
import TableServer.Proofs.Table.Sending

/-! Which requests are answered. Over tables of objects, and without handlers, a request is answered
unless it spells a numeral or a literal that cannot be read, or is to be answered with a surrogate. -/
namespace TableServer

variable {sources : List (List Char)}

namespace Store

variable {s : Store} {name : String}

theorem payloadRows_yields (payload : Value) :
    FailsOnly (Failure.Due sources) (Table.payloadRows payload) := by
  have objects (items : List Value) :
      FailsOnly (Failure.Due sources) (Table.objectsOf items) := by
    induction items with
    | nil => trivial
    | cons item rest ih =>
        cases item with
        | object members => exact ih.map fun _ _ => trivial
        | _ => trivial
  unfold Table.payloadRows
  split
  · trivial
  · trivial
  · exact objects _
  · exact objects _

theorem touched_yields {bad : Failure → Prop} {effect : Effect (List Nat)}
    (objects : AllObjects (effect.2.rows name)) (fails : FailsOnly bad effect.1) :
    Yields AllObjects bad (touched name effect).1 :=
  fails.map fun positions _ => Table.forall_rowsAt objects positions

theorem insert_yields (objects : AllObjects (s.rows name)) (payload : Value) :
    Yields AllObjects (Failure.Due sources) (touched name (s.insert name payload)).1 := by
  unfold insert
  refine (payloadRows_yields payload).elim (fun rows _ _ => ?_) fun _ due => due
  refine touched_yields ?_ trivial
  rw [rows_put_self]
  exact Table.forall_append objects rows fun _ _ => rfl

theorem upsert_yields (objects : AllObjects (s.rows name)) (payload : Value) (ignore : Bool) :
    Yields AllObjects (Failure.Due sources) (touched name (s.upsert name payload ignore)).1 := by
  unfold upsert
  refine (payloadRows_yields payload).elim (fun rows _ _ => ?_) fun _ due => due
  obtain ⟨⟨positions, found⟩, left⟩ := Table.upsertRows_objects ignore rows objects
  refine touched_yields ?_ ?_
  · rwa [rows_put_self]
  · dsimp only
    rw [found]
    trivial

theorem decide_yields {p : RowPredicate}
    (decides : ∀ row, FailsOnly (Fault.Due sources) (p row)) (table : Table) :
    FailsOnly (Fault.Due sources) (table.decide p) := by
  induction table with
  | nil => trivial
  | cons row rest ih =>
      have head := decides row
      unfold Table.decide
      exact head.elim (fun b _ _ => ih.map fun _ _ => trivial) fun _ due => due

section Predicates

variable {predicate : Option RowPredicate}
  (decides : ∀ p, predicate = some p → ∀ row, FailsOnly (Fault.Due sources) (p row))
include decides

theorem update_yields (objects : AllObjects (s.rows name)) (payload : Value) :
    Yields AllObjects (Failure.FaultDue sources)
      (touched name (s.update name predicate payload)).1 := by
  have read : FailsOnly (Failure.FaultDue sources) (patchOf payload) := by
    cases payload <;> trivial
  unfold update
  refine read.elim (fun patch _ _ => ?_) fun _ due => due
  cases predicate with
  | none => exact touched_yields objects trivial
  | some p =>
      dsimp only
      refine (decide_yields (decides p rfl) (s.rows name)).elim (fun decisions told _ => ?_)
        fun _ due => due
      obtain ⟨-, rfl⟩ := Table.decide_eq_ok_iff.mp told
      dsimp only
      split
      · exact touched_yields objects trivial
      · rw [Table.patchAll_choice patch _ objects]
        refine touched_yields (fun row hr => ?_) trivial
        rw [rows_put_self] at hr
        obtain ⟨old, ho, rfl⟩ := List.mem_map.mp hr
        split
        · exact Value.isObject_patched (objects old ho) patch
        · exact objects old ho

theorem delete_yields (objects : AllObjects (s.rows name)) :
    Yields AllObjects (Failure.Due sources) (s.delete name predicate).1 := by
  cases predicate with
  | none => trivial
  | some p =>
      unfold delete
      dsimp only
      refine (decide_yields (decides p rfl) (s.rows name)).elim (fun decisions told _ => ?_)
        fun _ due => due
      obtain ⟨-, rfl⟩ := Table.decide_eq_ok_iff.mp told
      dsimp only
      rw [Table.part_choice]
      split
      · exact fun row hr => absurd hr List.not_mem_nil
      · exact fun row hr => objects row (List.mem_filter.mp hr).1

end Predicates

end Store

/-- The texts in which a request spells columns, numerals and literals: the keys and values of its
query, and its range header. -/
def Request.spellings (r : Request) : List (List Char) :=
  r.query.flatMap (fun pair => [pair.1.toList, pair.2.toList]) ++
    (r.header? "range").toList.map String.toList

namespace Service

/-- No surrogate stands in the table that a request addresses or in the body that it brings. -/
structure SurrogateFree (s : Service) (r : Request) : Prop where
  rows : ∀ route, Route.classify r.method r.path r.headers s.settings = .ok route →
    AllWellFormed (s.store.rows route.qualified)
  body : ∀ route body, Route.classify r.method r.path r.headers s.settings = .ok route →
    requestBody route r = .ok body → body.wellFormed = true

/-- Faults of a request: those of its query, that of an integer in its body that is too long, and
that of a surrogate among the rows that it is answered with. -/
inductive Provokes (s : Service) (r : Request) : Fault → Prop where
  | query {f : Fault} : f.Due r.spellings → Provokes s r f
  | body {text : Codes} {digits : Nat} : Text.decodeDetected r.body = .ok text →
      Value.readText text = .error (.integerTooLong digits) →
      Provokes s r (.value (Value.tooLongMessage digits))
  | surrogate {cause : Text.EncodeFault} : ¬s.SurrogateFree r → Provokes s r (.encoding cause)

def Fails (s : Service) (r : Request) : Failure → Prop
  | .service _ => True
  | .fault f => s.Provokes r f

variable {s : Service} {r : Request} {route : Route}

theorem fails_of_due {α : Type} {x : Outcome α} {good : α → Prop}
    (h : Yields good (Failure.FaultDue r.spellings) x) : Yields good (s.Fails r) x := by
  match x, h with
  | .ok a, h => exact h
  | .error (.service e), _ => trivial
  | .error (.fault f), h => exact .query h

theorem jsonBody_yields : FailsOnly (s.Fails r) r.jsonBody := by
  unfold Request.jsonBody
  split
  · trivial
  · split
    · trivial
    · rename_i text decoded
      split
      · trivial
      · trivial
      · rename_i tooLong
        exact .body decoded tooLong

theorem decodedBody_yields : FailsOnly (s.Fails r) r.decodedBody := by
  unfold Request.decodedBody
  split
  · trivial
  · dsimp only
    split
    · exact jsonBody_yields.map fun _ _ => trivial
    · split <;> trivial

theorem ofRows_yields (prefs : Preferences) (shape : Shape) (status : Int) {result : QueryResult}
    (whole : s.SurrogateFree r → AllWellFormed result.rows) :
    FailsOnly (s.Fails r) (Response.ofRows route prefs shape status result) := by
  have sent (v : Value) (told : s.SurrogateFree r → v.wellFormed = true) :
      FailsOnly (s.Fails r) ((Response.jsonContent v).mapError .fault) := by
    refine (Response.jsonContent_yields v).elim (fun _ _ _ => trivial) fun fault => ?_
    rintro ⟨⟨cause, rfl⟩, broken⟩
    exact .surrogate fun free => by simp [told free] at broken
  have resolved : FailsOnly (s.Fails r) (shape.resolve result.rows) := by
    unfold Shape.resolve
    split <;> trivial
  have fitting := resolved.imp fun v told _ (free : s.SurrogateFree r) =>
    (Shape.resolve_wellFormed (whole free) shape).of_eq_ok told
  exact fitting.bind fun v told => (sent v told).map fun _ _ => trivial

theorem answerWrite_yields {q : Query} (spelt : q.SpeltIn r.spellings) {rows : List Value}
    (objects : AllObjects rows) (whole : s.SurrogateFree r → AllWellFormed rows)
    (prefs : Preferences) (status : Int) :
    FailsOnly (s.Fails r) (s.answerWrite route r q prefs status rows) := by
  have projected := q.projection.rows_yields spelt.projection objects
  unfold answerWrite
  split
  · trivial
  · refine projected.elim (fun shown told _ => ofRows_yields prefs _ status fun free => ?_)
      fun _ due => .query due
    exact (q.projection.rows_wellFormed (whole free)).of_eq_ok told

theorem predicateOf_decides {q : Query} (spelt : q.SpeltIn sources) (p : RowPredicate)
    (h : predicateOf q = some p) (row : Value) :
    FailsOnly (Fault.Due sources) (p row) := by
  obtain ⟨f, hf, rfl⟩ := Option.map_eq_some_iff.mp h
  exact f.holds_yields (Scope.speltIn_predicate spelt.scope hf) row

theorem writeTable_yields (objects : ∀ name, AllObjects (s.store.rows name)) {q : Query}
    (spelt : q.SpeltIn sources) (prefs : Preferences) (body : Value) :
    Yields AllObjects (Failure.FaultDue sources) (s.writeTable route prefs body q).1 := by
  have table := objects route.qualified
  unfold writeTable
  dsimp only
  split
  · exact (Store.insert_yields table body).faultDue
  · exact (Store.upsert_yields table body _).faultDue
  · exact Store.update_yields (predicateOf_decides spelt) table body
  · exact (Store.delete_yields (predicateOf_decides spelt) table).faultDue
  · exact fun row hr => absurd hr List.not_mem_nil

theorem writeTable_wellFormed (whole : AllWellFormed (s.store.rows route.qualified)) {body : Value}
    (told : body.wellFormed = true) (prefs : Preferences) (q : Query) :
    GivesOnly AllWellFormed (s.writeTable route prefs body q).1 := by
  unfold writeTable
  dsimp only
  split
  · exact Store.insert_wellFormed whole told
  · exact Store.upsert_wellFormed whole told _
  · exact Store.update_wellFormed whole told _
  · exact Store.delete_wellFormed whole _
  · exact fun row hr => absurd hr List.not_mem_nil

theorem runTable_yields (objects : ∀ name, AllObjects (s.store.rows name)) {q : Query}
    (spelt : q.SpeltIn r.spellings) (prefs : Preferences) {body : Value}
    (whole : s.SurrogateFree r → AllWellFormed (s.store.rows route.qualified))
    (told : s.SurrogateFree r → body.wellFormed = true) :
    FailsOnly (s.Fails r) (s.runTable route r prefs body q).1 := by
  cases hw : route.kind.writes with
  | true =>
      have written := (fails_of_due (s := s) (writeTable_yields objects spelt prefs body)).imp
        fun rows hr among => And.intro among fun free =>
          (writeTable_wellFormed (whole free) (told free) prefs q).of_eq_ok hr
      rw [runTable_write hw]
      exact written.bind fun rows hr => answerWrite_yields spelt hr.1 hr.2 prefs _
  | false =>
      have selected := (fails_of_due (s := s)
        (q.run_yields spelt (objects route.qualified)).faultDue).imp fun result hr _ =>
          fun free => (q.run_wellFormed (whole free)).of_eq_ok hr
      have answered : FailsOnly (s.Fails r)
          ((s.select route q).bind (Response.ofRows route prefs (s.shapeFor r) 200)) :=
        selected.bind fun result hr => ofRows_yields prefs (s.shapeFor r) 200 hr
      unfold runTable
      cases hk : route.kind with
      | select => exact answered
      | rpc => exact answered
      | head => exact selected.map fun _ _ => trivial
      | _ => rw [hk] at hw; cases hw

/-- A service that raises no error of its own and calls no handler. -/
structure Plain (s : Service) : Prop where
  quiet : s.trigger = none
  noProcedures : s.procedures = []
  noFunctions : s.functions = []

theorem spelt_query (r : Request) : ∀ pair ∈ r.query,
    Spelt r.spellings pair.1.toList ∧ Spelt r.spellings pair.2.toList := by
  intro pair hp
  refine ⟨⟨pair.1.toList, ?_, List.infix_rfl⟩, ⟨pair.2.toList, ?_, List.infix_rfl⟩⟩
  all_goals exact List.mem_append_left _ (List.mem_flatMap.mpr ⟨pair, hp, by simp⟩)

theorem spelt_range (r : Request) : ∀ text, r.header? "range" = some text →
    Spelt r.spellings text.toList := by
  intro text ht
  refine ⟨text.toList, List.mem_append_right _ ?_, List.infix_rfl⟩
  simp [ht]

theorem dispatch_yields (plain : s.Plain) (objects : ∀ name, AllObjects (s.store.rows name))
    {body : Value} (whole : s.SurrogateFree r → AllWellFormed (s.store.rows route.qualified))
    (told : s.SurrogateFree r → body.wellFormed = true) :
    FailsOnly (s.Fails r) (s.dispatch route r body).1 := by
  have unknown (parameters : Value) : s.procedures.invoke route.name parameters s.store =
      (.error (.service (Handler.unknownProcedure route.name)), s.store) := by
    rw [plain.noProcedures]
    rfl
  unfold dispatch
  dsimp only
  split
  · unfold runProcedure
    have named : FailsOnly (s.Fails r) (procedureParameters r body) := by
      unfold procedureParameters
      split
      · trivial
      · split <;> trivial
    refine named.elim (fun parameters _ _ => ?_) fun _ fails => fails
    dsimp only
    rw [unknown]
    trivial
  · unfold headProcedure
    dsimp only
    rw [unknown]
    trivial
  · have read := fails_of_due (s := s) (Query.read_yields (spelt_query r) (spelt_range r)).faultDue
    exact read.elim (fun q _ spelt => runTable_yields objects spelt _ whole told)
      fun _ fails => fails

theorem outcome_yields (plain : s.Plain) (objects : ∀ name, AllObjects (s.store.rows name))
    (r : Request) : FailsOnly (s.Provokes r) (s.handle r).outcome := by
  have settled {effect : Effect Response} (h : FailsOnly (s.Fails r) effect.1) :
      FailsOnly (s.Provokes r) (exchange effect none).outcome := by
    match effect, h with
    | (.ok _, _), _ => trivial
    | (.error (.service e), _), _ => trivial
    | (.error (.fault f), _), h => exact h
  unfold handle
  split
  · trivial
  · rename_i name _
    refine settled ?_
    unfold runFunction
    refine decodedBody_yields.elim (fun body _ _ => ?_) fun _ fails => fails
    dsimp only
    rw [plain.noFunctions]
    trivial
  · split
    · trivial
    · rename_i route classified
      have read : FailsOnly (s.Fails r) (requestBody route r) := by
        unfold requestBody
        split
        · trivial
        · exact jsonBody_yields
      refine read.elim (fun body brought _ => ?_) fun failure => @settled (.error failure, s.store)
      unfold handleRouted
      rw [plain.quiet]
      exact settled (dispatch_yields plain objects (fun free => free.rows route classified)
        fun free => free.body route body classified brought)

/-- Every request is answered, but for one that spells what cannot be read, or that is to be
answered with a surrogate: a step of a path or a range of figures that are no integer, a literal or
a body with an integer that is too long, a surrogate in a row of the table or in the body. -/
theorem answered_or_provoked (plain : s.Plain) (objects : ∀ name, AllObjects (s.store.rows name))
    (r : Request) :
    (∃ response, (s.handle r).outcome = .ok response) ∨
      ∃ fault, (s.handle r).outcome = .error fault ∧ s.Provokes r fault := by
  exact (outcome_yields plain objects r).elim (fun response _ _ => .inl ⟨response, rfl⟩)
    fun fault fails => .inr ⟨fault, rfl, fails⟩

theorem twoPosts_plain : twoPosts.Plain :=
  ⟨rfl, rfl, rfl⟩

theorem twoPosts_surrogateFree {r : Request} (bodiless : r.body = []) :
    twoPosts.SurrogateFree r := by
  constructor
  · intro route _ row hr
    simp only [twoPosts, ofStore, Store.rows, Entries.find?] at hr
    split at hr
    · simp only [Option.getD_some, List.mem_cons, List.not_mem_nil, or_false] at hr
      rcases hr with rfl | rfl <;> rfl
    · cases hr
  · intro route body _ read
    have nothing : r.jsonBody = .ok .null := by simp [Request.jsonBody, bodiless]
    rw [requestBody, nothing, ite_self] at read
    cases read
    rfl

theorem answered_of_two_posts :
    ∃ response, (twoPosts.handle ⟨"GET", "/rest/v1/posts", [], [], []⟩).outcome = .ok response := by
  have unspelt (text : List Char) : ¬Spelt (Request.spellings ⟨"GET", "/rest/v1/posts", [], [], []⟩)
      text := by
    rintro ⟨source, hs, -⟩
    exact absurd hs List.not_mem_nil
  rcases answered_or_provoked twoPosts_plain twoPosts_objects _ with answered | ⟨fault, -, provoked⟩
  · exact answered
  · cases provoked with
    | query due =>
        cases due with
        | step spelt => exact absurd spelt (unspelt _)
        | digits spelt => exact absurd spelt (unspelt _)
        | literal spelt => exact absurd spelt (unspelt _)
    | body decoded tooLong =>
        have nothing : Value.readValue (Value.skip []) = .error (.malformed .expectedValue []) := by
          unfold Value.readValue
          rfl
        have empty : Value.readText [] = .error (.malformed .expectedValue []) := by
          rw [Value.readText, nothing]
        cases (show Text.decodeDetected [] = .ok [] from rfl).symm.trans decoded
        cases empty.symm.trans tooLong
    | surrogate held => exact absurd (twoPosts_surrogateFree rfl) held

def taggedPosts : Service :=
  .ofStore {} ⟨[("public.posts", [.object [("id", .ofInt 1), ("tags", .array [.string "a"])]])]⟩

/-- Two minus signs in front of a figure pass for a place in a list and are no integer. -/
def doublySigned : Request :=
  ⟨"GET", "/rest/v1/posts", [("tags->--1", "eq.a")], [], []⟩

theorem unanswered_of_two_signs :
    ¬∀ (s : Service) (r : Request), s.Plain → (∀ name, AllObjects (s.store.rows name)) →
      ∃ response, (s.handle r).outcome = .ok response := by
  intro always
  have objects (name : String) : AllObjects (taggedPosts.store.rows name) := by
    intro row hr
    simp only [taggedPosts, ofStore, Store.rows, Entries.find?] at hr
    split at hr
    · rw [List.mem_singleton.mp hr]
      rfl
    · cases hr
  obtain ⟨response, answered⟩ := always taggedPosts doublySigned ⟨rfl, rfl, rfl⟩ objects
  have fault : (taggedPosts.handle doublySigned).outcome =
      .error (.integer .notInteger ['-', '-', '1']) := by rfl
  cases fault.symm.trans answered

end Service

end TableServer
