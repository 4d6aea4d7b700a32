import TableServer.Query.Reader
import TableServer.Query.Run
import TableServer.Service.Basic

/-! Exchanges: a request answered by a service. Errors are answered, faults are not; in either
case the exchange tells the store that is left and what the trigger was asked. -/
namespace TableServer

structure Exchange where
  outcome : Except Fault Response
  store : Store
  consulted : Option Consultation

namespace Response

/-- The outcome with an error answered. -/
def settle : Outcome Response → Except Fault Response
  | .ok response => .ok response
  | .error (.service e) => .ok (ofError e)
  | .error (.fault f) => .error f

def profile (route : Route) : Headers :=
  [("content-profile", route.qualified)]

def countHeaders (prefs : Preferences) (result : QueryResult) : Headers :=
  match prefs.count with
  | none => []
  | some mode =>
      [("content-range", result.contentRange), ("preference-applied", "count=" ++ mode.name)]

def rowsHeaders (route : Route) (prefs : Preferences) (result : QueryResult) : Headers :=
  ("content-type", jsonType) :: profile route ++ countHeaders prefs result

def ofRows (route : Route) (prefs : Preferences) (shape : Shape) (status : Int)
    (result : QueryResult) : Outcome Response :=
  (shape.resolve result.rows).bind fun v =>
    ((jsonContent v).mapError .fault).map fun content =>
      ⟨status, rowsHeaders route prefs result, content⟩

/-- The response with the headers of a result alone. -/
def ofHead (route : Route) (prefs : Preferences) (result : QueryResult) : Response :=
  ⟨200, rowsHeaders route prefs result, []⟩

def ofMinimal (route : Route) (prefs : Preferences) (status : Int) (result : QueryResult) :
    Response :=
  ⟨if status = 201 then 201 else 204, profile route ++ countHeaders prefs result, []⟩

end Response

namespace Service

/-- Kinds of requests whose body is not read. -/
def withoutBody (route : Route) (r : Request) : Bool :=
  match route.kind with
  | .select => true
  | .head => true
  | .delete => true
  | .rpc => r.method = "GET"
  | _ => false

def requestBody (route : Route) (r : Request) : Outcome Value :=
  if withoutBody route r then .ok .null else r.jsonBody

def shapeFor (s : Service) (r : Request) : Shape :=
  Shape.ofAccept (r.header? "accept") s.settings

def select (s : Service) (route : Route) (q : Query) : Outcome QueryResult :=
  q.run (s.store.rows route.qualified)

def answerWrite (s : Service) (route : Route) (r : Request) (q : Query) (prefs : Preferences)
    (status : Int) (rows : List Value) : Outcome Response :=
  if prefs.minimal then .ok (.ofMinimal route prefs status ⟨rows, rows.length, 0⟩)
  else
    match q.projection.rows rows with
    | .error f => .error (.fault f)
    | .ok projected =>
        Response.ofRows route prefs (s.shapeFor r) status ⟨projected, rows.length, 0⟩

def finishWrite (s : Service) (route : Route) (r : Request) (q : Query) (prefs : Preferences)
    (status : Int) (effect : Effect (List Value)) : Effect Response :=
  (effect.1.bind (s.answerWrite route r q prefs status), effect.2)

def predicateOf (q : Query) : Option RowPredicate :=
  q.scope.predicate?.map Filter.holds

def runTable (s : Service) (route : Route) (r : Request) (prefs : Preferences) (body : Value)
    (q : Query) : Effect Response :=
  let name := route.qualified
  let touched := Store.touched name
  match route.kind with
  | .insert => s.finishWrite route r q prefs 201 (touched (s.store.insert name body))
  | .upsert =>
      s.finishWrite route r q prefs 201
        (touched (s.store.upsert name body prefs.ignoresDuplicates))
  | .update =>
      s.finishWrite route r q prefs 200 (touched (s.store.update name (predicateOf q) body))
  | .delete => s.finishWrite route r q prefs 200 (s.store.delete name (predicateOf q))
  | .head => ((s.select route q).map (Response.ofHead route prefs), s.store)
  | _ => ((s.select route q).bind (Response.ofRows route prefs (s.shapeFor r) 200), s.store)

def procedureParameters (r : Request) (body : Value) : Outcome Value :=
  if r.method = "GET" then .ok (.object (r.parameters.map fun p => (p.1, .string p.2)))
  else
    match body with
    | .null => .ok .null
    | .object members => .ok (.object members)
    | _ => .error (.malformed "RPC parameters must be a JSON object")

/-- The response to the call of a procedure. Rows that a POST gives are read like a table. -/
def answerProcedure (s : Service) (route : Route) (r : Request) (prefs : Preferences)
    (reply : Reply) : Outcome Response :=
  match if r.method = "POST" then reply.rows? else none with
  | some rows =>
      (Query.read r.query (r.header? "range")).bind fun q =>
        (q.run rows).bind (Response.ofRows route prefs (s.shapeFor r) 200)
  | none =>
      ((Response.jsonContent reply.toValue).mapError .fault).map fun content =>
        ⟨200, ("content-type", Response.jsonType) :: Response.profile route, content⟩

def runProcedure (s : Service) (route : Route) (r : Request) (prefs : Preferences)
    (body : Value) : Effect Response :=
  match procedureParameters r body with
  | .error e => (.error e, s.store)
  | .ok parameters =>
      let effect := s.procedures.invoke route.name parameters s.store
      (effect.1.bind (s.answerProcedure route r prefs), effect.2)

def headProcedure (s : Service) (route : Route) (r : Request) : Effect Response :=
  let parameters := Value.object (r.parameters.map fun p => (p.1, .string p.2))
  let effect := s.procedures.invoke route.name parameters s.store
  (effect.1.map fun _ => ⟨200, Response.profile route, []⟩, effect.2)

/-- A request with its route and body, behind the trigger. -/
def dispatch (s : Service) (route : Route) (r : Request) (body : Value) : Effect Response :=
  let prefs := Preferences.read (r.header? "prefer")
  match route.kind, route.rpc with
  | .rpc, _ => s.runProcedure route r prefs body
  | .head, true => s.headProcedure route r
  | _, _ =>
      match Query.read r.query (r.header? "range") with
      | .error e => (.error e, s.store)
      | .ok q => s.runTable route r prefs body q

def answerFunction (a : FunctionAnswer) : Outcome Response :=
  match a.encode with
  | .error f => .error (.fault f)
  | .ok (content, type) =>
      let own := Headers.normalize a.headers
      .ok ⟨a.status, Entries.merge (type.toList.map fun t => ("content-type", t)) own, content⟩

def runFunction (s : Service) (name : String) (r : Request) : Effect Response :=
  match r.decodedBody with
  | .error e => (.error e, s.store)
  | .ok body =>
      let effect := s.functions.call name ⟨body, r.parameters, r.method⟩ s.store
      (effect.1.bind answerFunction, effect.2)

def exchange (effect : Effect Response) (consulted : Option Consultation) : Exchange :=
  ⟨Response.settle effect.1, effect.2, consulted⟩

def refuse (s : Service) (failure : Failure) (consulted : Option Consultation) : Exchange :=
  exchange (.error failure, s.store) consulted

/-- A request with its route and body: the trigger is asked, then the request is run. -/
def handleRouted (s : Service) (route : Route) (r : Request) (body : Value) : Exchange :=
  match s.trigger with
  | none => exchange (s.dispatch route r body) none
  | some trigger =>
      let c : Consultation := ⟨route.schema, route.name, body, route.kind⟩
      match trigger.consult c with
      | .error e => s.refuse (.service e) (some c)
      | .ok () => exchange (s.dispatch route r body) (some c)

def handle (s : Service) (r : Request) : Exchange :=
  match Route.functionName r.path s.settings with
  | .error e => s.refuse (.service e) none
  | .ok (some name) => exchange (s.runFunction name r) none
  | .ok none =>
      match Route.classify r.method r.path r.headers s.settings with
      | .error e => s.refuse (.service e) none
      | .ok route =>
          match requestBody route r with
          | .error e => s.refuse e none
          | .ok body => s.handleRouted route r body

def behind (s : Service) (e : Exchange) : Service :=
  s.withStore e.store

end Service

end TableServer
