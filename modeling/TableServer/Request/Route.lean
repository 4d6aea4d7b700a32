import TableServer.Failure
import TableServer.Request.Headers
import TableServer.Request.Preferences
import TableServer.Request.Settings
import TableServer.Query.Shape
import TableServer.Table.Store

/-! Routes: what a method, a path and headers ask for. Paths hold a version segment; a table or
the marker of procedures with a procedure stands behind it. Edge functions have paths of their
own. -/
namespace TableServer

inductive RequestKind where
  | select
  | insert
  | upsert
  | update
  | delete
  | head
  | rpc
deriving DecidableEq

def RequestKind.name : RequestKind → String
  | select => "select"
  | insert => "insert"
  | upsert => "upsert"
  | update => "update"
  | delete => "delete"
  | head => "head"
  | rpc => "rpc"

/-- A table of a schema or, when `rpc` is set, a procedure. -/
structure Route where
  kind : RequestKind
  schema : String
  name : String
  rpc : Bool

namespace Route

def qualified (r : Route) : String :=
  Store.qualify r.schema r.name

def segments (path : String) : List String :=
  ((Text.splitOn '/' path.toList).filter fun part => !part.isEmpty).map String.ofList

def functionName (path : String) (s : Settings) : Except ServiceError (Option String) :=
  match segments path with
  | marker :: version :: rest =>
      if marker ≠ s.functionsSegment then .ok none
      else if version ≠ s.restVersion ∨ rest.isEmpty then
        .error (.malformed ("Invalid edge function path: " ++ path))
      else .ok (some (String.intercalate "/" rest))
  | _ => .ok none

def invalidPath (path details : String) : ServiceError :=
  (ServiceError.malformed ("Invalid path: " ++ path)).withDetails details

def notAllowed (method : String) : ServiceError :=
  { ServiceError.malformed ("Method " ++ method ++ " not allowed") with status := 405 }

/-- The segments behind the first version segment; none without one. -/
def behindVersion? (version : String) : List String → Option (List String)
  | [] => none
  | s :: rest => if s = version then some rest else behindVersion? version rest

def readsOnly (method : String) : Bool :=
  method = "GET" || method = "HEAD"

def schemaOf (method : String) (headers : Headers) (s : Settings) : String :=
  let profile := if readsOnly method then s.readProfileHeader else s.writeProfileHeader
  match Headers.look? profile headers with
  | none => s.defaultSchema
  | some schema => if schema = "" then s.defaultSchema else schema

def tableKind (method : String) (headers : Headers) : Except ServiceError RequestKind :=
  match method with
  | "GET" => .ok .select
  | "HEAD" => .ok .head
  | "POST" =>
      .ok (if (Preferences.read (Headers.look? "Prefer" headers)).merges then .upsert else .insert)
  | "PATCH" => .ok .update
  | "DELETE" => .ok .delete
  | _ => .error (notAllowed method)

def classify (method path : String) (headers : Headers) (s : Settings) :
    Except ServiceError Route :=
  let method := String.ofList (Text.upper method.toList)
  match behindVersion? s.restVersion (segments path) with
  | none => .error (invalidPath path ("missing /" ++ s.restVersion ++ "/ segment"))
  | some [] => .error (invalidPath path "missing table name")
  | some (name :: rest) =>
      let schema := schemaOf method headers s
      if name = s.rpcSegment then
        match rest with
        | [] => .error (invalidPath path "missing function name")
        | procedure :: _ =>
            .ok ⟨if method = "HEAD" then .head else .rpc, schema, procedure, true⟩
      else (tableKind method headers).map fun kind => ⟨kind, schema, name, false⟩

end Route

def Shape.ofAccept (accept : Option String) (s : Settings) : Shape :=
  let accept := String.ofList (Text.trim (accept.getD "").toList)
  if accept = s.singleAccept then .single
  else if s.maybeSingleAccept.getD "" ≠ "" ∧ some accept = s.maybeSingleAccept then .maybeSingle
  else .list

end TableServer
