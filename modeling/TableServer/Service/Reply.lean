import TableServer.Request.Basic
import TableServer.Value.Literal

/-! What handlers give: a value, octets, or an answer with a status and headers around one of
them. -/
namespace TableServer

inductive Reply where
  | value (v : Value)
  | octets (o : Text.Octets)
  | answer (data : Reply) (status : Int) (headers : Headers)

namespace Reply

def summary : Reply → String
  | value v => v.literal
  | octets o => Text.quotedOctets o
  | answer data status headers =>
      "FunctionResponse(data=" ++ data.summary ++ ", status=" ++ toString status ++ ", headers=" ++
        (Value.object (headers.map fun h => (h.1, .string h.2))).literal ++ ")"

def toValue : Reply → Value
  | value v => v
  | other => .string other.summary

def rows? : Reply → Option (List Value)
  | value (.array items) => if items.all Value.isObject then some items else none
  | _ => none

end Reply

structure FunctionAnswer where
  data : Reply
  status : Int
  headers : Headers

namespace FunctionAnswer

/-- An answer is taken as it is; any other reply is answered with status 200. -/
def ofReply : Reply → FunctionAnswer
  | .answer data status headers => ⟨data, status, headers⟩
  | data => ⟨data, 200, []⟩

/-- The content and its type. Null has neither; an answer cannot stand within an answer. -/
def encode (a : FunctionAnswer) : Except Fault (Text.Octets × Option String) :=
  match a.data with
  | .value .null => .ok ([], none)
  | .octets o => .ok (o, some "application/octet-stream")
  | .value (.string s) =>
      ((Text.encode s).mapError .encoding).map fun o => (o, some "text/plain; charset=utf-8")
  | .value v => (Response.jsonContent v).map fun o => (o, some Response.jsonType)
  | .answer .. => .error (.type (.notWritable "FunctionResponse"))

end FunctionAnswer

end TableServer
