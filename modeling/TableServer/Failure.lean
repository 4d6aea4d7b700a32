import TableServer.Text.Encoder
import TableServer.Value.SyntaxFault
import TableServer.Value.Printer

/-! Failures. A service error is answered to the caller with a status and a payload; a fault is a
mistake that no answer covers and that leaves the service as it is. -/
namespace TableServer

inductive ErrorKind where
  | general
  | malformed
  | validation
  | notFound
  | shape (wanted : String) (rows : Int)
  | handler
  | injected
deriving DecidableEq

namespace ErrorKind

def name : ErrorKind → String
  | general => "PostgrestError"
  | malformed => "MalformedRequest"
  | validation => "ValidationError"
  | notFound => "NotFound"
  | shape .. => "ShapeError"
  | handler => "HandlerFailure"
  | injected => "InjectedFailure"

def defaultStatus : ErrorKind → Int
  | general => 500
  | malformed => 400
  | validation => 400
  | notFound => 404
  | shape .. => 406
  | handler => 500
  | injected => 400

def defaultCode : ErrorKind → String
  | general => "PGRST000"
  | malformed => "PGRST100"
  | validation => "PGRST102"
  | notFound => "PGRST116"
  | shape .. => "PGRST116"
  | handler => "P0001"
  | injected => "PGRST000"

end ErrorKind

abbrev Sendable := { v : Value // v.wellFormed = true }

def Sendable.none : Sendable := ⟨.null, rfl⟩

def Sendable.ofString (text : String) : Sendable := ⟨.string text, Codes.wellFormed_ofString text⟩

structure ServiceError where
  kind : ErrorKind
  message : String
  code : String
  status : Int
  details : Sendable
  hint : Option String

namespace ServiceError

def ofKind (kind : ErrorKind) (message : String) (details : Sendable) (hint : Option String) :
    ServiceError :=
  ⟨kind, message, kind.defaultCode, kind.defaultStatus, details, hint⟩

def malformed (message : String) : ServiceError :=
  ofKind .malformed message .none none

def withHint (e : ServiceError) (hint : String) : ServiceError :=
  { e with hint := some hint }

def withDetails (e : ServiceError) (details : String) : ServiceError :=
  { e with details := .ofString details }

def payload (e : ServiceError) : Value :=
  .object [("message", .string e.message), ("code", .string e.code), ("details", e.details),
    ("hint", e.hint.elim .null fun hint => .string hint)]

def summary (e : ServiceError) : String :=
  e.kind.name ++ "(status=" ++ toString e.status ++ ", code=" ++ Text.quoted e.code ++
    ", message=" ++ Text.quoted e.message ++ ")"

end ServiceError

def Value.typeName : Value → String
  | null => "NoneType"
  | bool _ => "bool"
  | number (.integer _) => "int"
  | number (.double _) => "float"
  | string _ => "str"
  | array _ => "list"
  | object _ => "dict"

inductive TypeFault where
  | noItems (type : String)
  | textKeyOnText
  | textKeyOnList
  | textKeyOnOctets
  | noRange
  | notIterable (type : String)
  | noMembership (type : String)
  | noPair (place : Nat)
  | noKey (type : String)
  | notWritable (type : String)
deriving DecidableEq

def TypeFault.message : TypeFault → String
  | noItems type => s!"'{type}' object is not subscriptable"
  | textKeyOnText => "string indices must be integers, not 'str'"
  | textKeyOnList => "list indices must be integers or slices, not str"
  | textKeyOnOctets => "byte indices must be integers or slices, not str"
  | noRange => "unhashable type: 'slice'"
  | notIterable type => s!"'{type}' object is not iterable"
  | noMembership type => s!"argument of type '{type}' is not iterable"
  | noPair place => s!"cannot convert dictionary update sequence element #{place} to a sequence"
  | noKey type => s!"unhashable type: '{type}'"
  | notWritable type => s!"Object of type {type} is not JSON serializable"

/-- Mistakes that no answer covers. -/
inductive Fault where
  | integer (cause : IntegerFault) (text : List Char)
  | pairLength (place length : Nat)
  | value (message : String)
  | key (name : String)
  | type (cause : TypeFault)
  | member (owner name : String)
  | encoding (cause : Text.EncodeFault)
  | runtime (message : String)
deriving DecidableEq

/-- Messages quote at most this many characters of a text that is no integer. -/
def quotedLimit : Nat := 200

def IntegerFault.message (text : List Char) : IntegerFault → String
  | notInteger =>
      "invalid literal for int() with base 10: " ++
        String.ofList ((Text.quotedChars (.ofChars text)).take quotedLimit)
  | tooLong digits => Value.tooLongMessage digits

def Fault.message : Fault → String
  | integer cause text => cause.message text
  | pairLength place length =>
      s!"dictionary update sequence element #{place} has length {length}; 2 is required"
  | value message => message
  | key name => Text.quoted name
  | type cause => cause.message
  | member owner name => s!"'{owner}' object has no attribute '{name}'"
  | encoding cause => cause.message
  | runtime message => message

inductive Failure where
  | service (e : ServiceError)
  | fault (f : Fault)

abbrev Outcome (α : Type) := Except Failure α

def Failure.malformed (message : String) : Failure :=
  .service (.malformed message)

namespace ServiceError

/-- What is told of an error when it is made; the rest follows from its kind. -/
structure Telling where
  kind : ErrorKind
  message : String := ""
  code : Option String := none
  status : Option Int := none
  details : Sendable := .none
  hint : Option String := none

/-- The status in the code of an injected error: a code of digits that is an HTTP status. -/
def injectedStatus (t : Telling) : Except Fault (Option Int) :=
  match t.status, t.code with
  | none, some code =>
      let cs := code.toList
      if !cs.isEmpty && cs.all Text.isDigitFigure then
        match Number.readInteger cs with
        | .error cause => .error (.integer cause cs)
        | .ok n => .ok (if 100 ≤ n ∧ n ≤ 599 then some n else none)
      else .ok none
  | status, _ => .ok status

def settle (kind : ErrorKind) (t : Telling) (code : Option String) (status : Option Int) :
    ServiceError :=
  let code := code.getD ""
  let status := status.getD 0
  { kind := kind
    message := t.message
    code := if code = "" then kind.defaultCode else code
    status := if status = 0 then kind.defaultStatus else status
    details := t.details
    hint := t.hint }

/-- Makes an error. An empty code and a zero status count as untold. -/
def tell (t : Telling) : Except Fault ServiceError :=
  match t.kind with
  | .injected =>
      (injectedStatus t).map fun status =>
        let shown := if status.getD 0 = 0 then ErrorKind.injected.defaultStatus else status.getD 0
        let code := t.code.getD ""
        settle .injected t (some (if code = "" then toString shown else code)) status
  | kind => .ok (settle kind t t.code t.status)

end ServiceError

end TableServer
