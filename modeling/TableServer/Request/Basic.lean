import TableServer.Failure
import TableServer.Request.Headers
import TableServer.Text.Decoder
import TableServer.Text.Parts
import TableServer.Value.Reader

/-! Requests and responses, and bodies read as JSON, text or octets. -/
namespace TableServer

structure Request where
  method : String
  path : String
  query : List (String × String)
  headers : Headers
  body : Text.Octets

structure Response where
  status : Int
  headers : Headers
  content : Text.Octets

inductive Payload where
  | value (v : Value)
  | octets (o : Text.Octets)

namespace Request

def make (method path : String) (query : List (String × String)) (headers : Headers)
    (body : Text.Octets) : Request :=
  ⟨String.ofList (Text.upper method.toList), path, query, Headers.normalize headers, body⟩

def header? (r : Request) (name : String) : Option String :=
  Entries.find? name r.headers

def parameters (r : Request) : Entries String :=
  Entries.ofPairs r.query

def isBlankOctet (b : UInt8) : Bool :=
  b = 32 || (9 ≤ b && b ≤ 13)

def invalidBody (details : String) : Failure :=
  .service ((ServiceError.malformed "Invalid JSON body").withDetails details)

/-- The body as JSON; a blank one is null. -/
def jsonBody (r : Request) : Outcome Value :=
  if r.body.all isBlankOctet then .ok .null
  else
    match Text.decodeDetected r.body with
    | .error fault => .error (invalidBody fault.message)
    | .ok text =>
        match Value.readText text with
        | .ok v => .ok v
        | .error (.malformed cause rest) =>
            .error (invalidBody (Value.ReadFault.message text (.malformed cause rest)))
        | .error (.integerTooLong digits) =>
            .error (.fault (.value (Value.tooLongMessage digits)))

/-- The body as its content type tells: JSON, text, or octets. An empty one is null. -/
def decodedBody (r : Request) : Outcome Payload :=
  if r.body.isEmpty then .ok (.value .null)
  else
    let type := Text.lower ((r.header? "content-type").getD "").toList
    if Text.occursIn "json".toList type then r.jsonBody.map .value
    else if "text/".toList.isPrefixOf type then
      .ok (.value (.string (.ofChars (Text.lenient (Text.Utf8.events r.body)))))
    else .ok (.octets r.body)

end Request

namespace Response

def jsonType : String := "application/json; charset=utf-8"

/-- A value is sent as JSON, unless a surrogate stands in it. -/
def jsonContent (v : Value) : Except Fault Text.Octets :=
  (Text.encode v.spaced).mapError .encoding

/-- The response that reports an error, which holds no surrogates. -/
def ofError (e : ServiceError) : Response :=
  ⟨e.status, [("content-type", jsonType)], Text.octetsOf e.payload.spaced⟩

end Response

end TableServer
