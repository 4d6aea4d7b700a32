import TableServer.Order.Sorting
import TableServer.Service.Reply
import TableServer.Table.Store

/-! Handlers, which work on the live store: procedures are called with parameters, edge functions
with a whole call. They are registered by name. A fault within a handler becomes a service error
that tells its message; service errors of a handler are passed on. -/
namespace TableServer

/-- A procedure is given its parameters, an object or null. -/
abbrev Procedure := Value → Store → Effect Reply

structure Call where
  body : Payload
  query : Entries String
  method : String

abbrev EdgeFunction := Call → Store → Effect Reply

/-- Handlers by name. Registering a name again replaces its handler in place. -/
abbrev Registry (α : Type) := Entries α

namespace Registry

variable {α : Type}

def register (name : String) (handler : α) (r : Registry α) : Registry α :=
  Entries.put name handler r

/-- Removes a handler and tells whether there was one. -/
def unregister (name : String) (r : Registry α) : Bool × Registry α :=
  (Entries.has name r, Entries.erase name r)

def sortedNames (r : Registry α) : List String :=
  Sorting.distinctTexts (Entries.names r)

end Registry

namespace Handler

def failWith (opening : String) : Failure → Failure
  | .service e => .service e
  | .fault f => .service (.ofKind .handler (opening ++ f.message) .none none)

def guarded {α : Type} (opening : String) (effect : Effect α) : Effect α :=
  (effect.1.mapError (failWith opening), effect.2)

def unknownCode : String := "PGRST202"

def unknownProcedure (name : String) : ServiceError :=
  { ServiceError.ofKind .notFound "RPC function not found"
      (.ofString ("Could not find the function " ++ name ++ " in the mock registry")) none with
    code := unknownCode }

def unknownFunction (name : String) : ServiceError :=
  { ServiceError.ofKind .notFound ("Function " ++ name ++ " not found") .none none with
    code := unknownCode }

end Handler

def Registry.invoke (procedures : Registry Procedure) (name : String) (parameters : Value)
    (s : Store) : Effect Reply :=
  match Entries.find? name procedures with
  | none => (.error (.service (Handler.unknownProcedure name)), s)
  | some procedure =>
      Handler.guarded "RPC function execution failed: " (procedure parameters s)

def Registry.call (functions : Registry EdgeFunction) (name : String) (c : Call) (s : Store) :
    Effect FunctionAnswer :=
  match Entries.find? name functions with
  | none => (.error (.service (Handler.unknownFunction name)), s)
  | some function =>
      let called := { c with method := String.ofList (Text.upper c.method.toList) }
      let effect := Handler.guarded "Edge function execution failed: " (function called s)
      (effect.1.map FunctionAnswer.ofReply, effect.2)

end TableServer
