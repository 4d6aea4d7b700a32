import TableServer.Request.Route
import TableServer.Service.Script

/-! The trigger of a service: it is asked before any access to the store and may fail the
request. -/
namespace TableServer

structure Consultation where
  schema : String
  name : String
  body : Value
  kind : RequestKind

abbrev Trigger := Consultation → Except Failure Unit

/-- A rule raises for the questions that agree with all that it names. -/
structure TriggerRule where
  schema : Option String
  name : Option String
  kind : Option String
  raise : Raise

namespace TriggerRule

def names (wanted : Option String) (given : String) : Bool :=
  wanted.getD given = given

def covers (rule : TriggerRule) (c : Consultation) : Bool :=
  names rule.schema c.schema && names rule.name c.name && names rule.kind c.kind.name

end TriggerRule

/-- The trigger in which the first rule that covers a question raises. -/
def Trigger.ofRules (rules : List TriggerRule) : Trigger :=
  fun c =>
    match rules.find? fun rule => rule.covers c with
    | none => .ok ()
    | some rule => .error rule.raise.failure

/-- What a trigger answers for a request: its service errors, or a general error that tells the
message of a fault. -/
def Trigger.consult (t : Trigger) (c : Consultation) : Except ServiceError Unit :=
  (t c).mapError fun
    | .service e => e
    | .fault f => .ofKind .general f.message .none none

end TableServer
