import TableServer.Text.Case
import TableServer.Value.Basic

/-! Conventions of the wire that a service answers to. A field is told by a setting, else by the
environment, else it has its default. Unknown settings are passed over. -/
namespace TableServer

inductive LogLevel where
  | debug
  | info
  | warning
  | error
deriving DecidableEq

namespace LogLevel

def name : LogLevel → String
  | debug => "DEBUG"
  | info => "INFO"
  | warning => "WARNING"
  | error => "ERROR"

def ofName? (text : String) : Option LogLevel :=
  [debug, info, warning, error].find? fun level => level.name = text

end LogLevel

structure Settings where
  defaultSchema : String := "public"
  restVersion : String := "v1"
  rpcSegment : String := "rpc"
  functionsSegment : String := "functions"
  readProfileHeader : String := "Accept-Profile"
  writeProfileHeader : String := "Content-Profile"
  singleAccept : String := "application/vnd.pgrst.object+json"
  maybeSingleAccept : Option String := none
  logLevel : LogLevel := .info

namespace Settings

/-- What every variable of the environment that tells a setting starts with, in lower case. -/
def variableStart : String := "supamock_"

/-- Names of variables are read in any case; of two that differ only in case the last counts. -/
def environment (pairs : List (String × String)) : Entries String :=
  Entries.ofPairs (pairs.map fun v => (String.ofList (Text.lower v.1.toList), v.2))

def told (given : Members) (env : Entries String) (name : String) : Option Value :=
  match Entries.find? ↑name given with
  | some v => some v
  | none => (Entries.find? (variableStart ++ name) env).map fun text => .string text

def text? (default : String) : Option Value → Option String
  | none => some default
  | some (.string s) => s.string?
  | some _ => none

def optionalText? : Option Value → Option (Option String)
  | none => some none
  | some .null => some none
  | some (.string s) => s.string?.map some
  | some _ => none

def level? : Option Value → Option LogLevel
  | none => some .info
  | some (.string s) => s.string?.bind LogLevel.ofName?
  | some _ => none

def read? (given : Members) (env : List (String × String)) : Option Settings := do
  let field := told given (environment env)
  return {
    defaultSchema := ← text? "public" (field "default_schema")
    restVersion := ← text? "v1" (field "rest_version")
    rpcSegment := ← text? "rpc" (field "rpc_segment")
    functionsSegment := ← text? "functions" (field "functions_segment")
    readProfileHeader := ← text? "Accept-Profile" (field "read_profile_header")
    writeProfileHeader := ← text? "Content-Profile" (field "write_profile_header")
    singleAccept := ← text? "application/vnd.pgrst.object+json" (field "single_accept")
    maybeSingleAccept := ← optionalText? (field "maybe_single_accept")
    logLevel := ← level? (field "log_level") }

def fields (s : Settings) : Entries Value :=
  [("default_schema", .string s.defaultSchema),
   ("rest_version", .string s.restVersion),
   ("rpc_segment", .string s.rpcSegment),
   ("functions_segment", .string s.functionsSegment),
   ("read_profile_header", .string s.readProfileHeader),
   ("write_profile_header", .string s.writeProfileHeader),
   ("single_accept", .string s.singleAccept),
   ("maybe_single_accept", s.maybeSingleAccept.elim .null fun text => .string text),
   ("log_level", .string s.logLevel.name)]

def variableNames : List String :=
  let names := Entries.names (Settings.fields {})
  names.map fun name =>
    String.ofList (Text.upper (variableStart ++ name).toList)

end Settings

end TableServer
