import TableServer.Console.Arguments
import TableServer.Console.Drawing
import TableServer.Console.Fixture
import TableServer.Http.Client

/-! The program: one request to a service with the tables of a fixture, or an overview of these
tables. What it does not foresee breaks a run off without output. -/
namespace TableServer.Console

structure Output where
  exit : Nat
  lines : List String

/-- Why a run breaks off: a text cannot be shown, or a request is not delivered. -/
inductive Breakdown where
  | tag
  | surrogate
  | client (f : ClientFault)

def Breakdown.fault (f : Fault) : Breakdown :=
  client (.service f)

def Breakdown.ofMarkup : MarkupFault → Breakdown
  | .tag => tag
  | .style f => fault f

def Breakdown.message : Breakdown → String
  | tag => "a tag is not closed or not open"
  | surrogate => "surrogates not allowed"
  | client f => f.message

def programVersion : String := "Supamock v0.1.0"

def printed (markup : String) : Except Breakdown (List String) :=
  match render markup.toList with
  | .error f => .error (.ofMarkup f)
  | .ok text => .ok ((wrap consoleWidth .fold .free text).map String.ofList)

def printedPlain (text : List Char) : List String :=
  let text := (showCodes text).filter fun c => !Rendering.isMove c
  (wrap consoleWidth .fold .free text).map String.ofList

/-- A message about what is wrong, behind a mark. It is no plain text: its tags are not shown. -/
def refuse (message : String) : Except Breakdown Output :=
  (printed ("[red]❌ " ++ message ++ "[/red]")).map fun lines => ⟨1, lines⟩

def FixtureFault.refuse (path : String) : FixtureFault → Except Breakdown Output
  | unreadable message => Console.refuse ("Could not load fixture " ++ path ++ ": " ++ message)
  | shape => Console.refuse "Fixture must be an object of \x7b\"schema.table\": [rows]\x7d"

def readRequest? (request : String) : Option (String × String) :=
  match Text.cut? ' ' (Text.trim request.toList) with
  | some (method, target@(_ :: _)) =>
      some (String.ofList (Text.upper method), String.ofList (Text.trim target))
  | _ => none

def readHeader? (item : String) : Option (String × String) :=
  (Text.cut? ':' item.toList).map fun (name, text) =>
    (String.ofList (Text.trim name), String.ofList (Text.trim text))

def readHeaders : List String → Except String Headers
  | [] => .ok []
  | item :: rest =>
      match readHeader? item with
      | none => .error ("Invalid header (expected 'Name: value'): " ++ item)
      | some h => (readHeaders rest).map (h :: ·)

def shown (text : Codes) : Except Breakdown String :=
  text.string?.elim (.error .surrogate) .ok

/-- The lines of JSON content, or the content as it is. -/
def contentLines (d : Delivery) : Except Breakdown (List String) :=
  if d.content.isEmpty then .ok []
  else
    let text := Text.lenient (Text.Utf8.events d.content)
    if d.isJson then
      match Value.read (.ofChars text) with
      | .ok v => (shown v.indented).map fun line => [line]
      | .error _ => .ok [String.ofList text]
    else .ok (printedPlain text)

def headerMarkup (h : String × String) : String :=
  String.ofList ("[dim]".toList ++ protect h.1.toList ++ ": ".toList ++ protect h.2.toList ++
    "[/dim]".toList)

def deliveryLines (d : Delivery) : Except Breakdown (List String) :=
  (d.headers.mapM fun h => printed (headerMarkup h)).bind fun headers =>
    (contentLines d).map fun content =>
      (toString d.status ++ " " ++ d.reason) :: headers.flatten ++ content

def serverHost : String := "supamock.local"

def runRequest (s : Service) (method target : String) (headers : Headers) (data : Option String) :
    Except Breakdown Output :=
  let m : Message := ⟨method, target, headers, Text.encodeUtf8 (data.getD "")⟩
  match (Client.send ⟨.ofHost serverHost, s, []⟩ m).1 with
  | .error f => .error (.client f)
  | .ok d => (deliveryLines d).map fun lines => ⟨0, lines⟩

def runQuery (settings : Settings) (path : String) (file : Except FileFault Text.Octets)
    (request : String) (headers : List String) (data : Option String) :
    Except Breakdown Output :=
  match readRequest? request with
  | none => refuse "Request must look like \"METHOD /path?query\""
  | some (method, target) =>
      match loadFixture path file with
      | .error f => .error (.fault f)
      | .ok (.error f) => f.refuse path
      | .ok (.ok fixture) =>
          match readHeaders headers with
          | .error message => refuse message
          | .ok headers =>
              runRequest (.ofStore settings fixture.store) method target (Entries.ofPairs headers) data

def overview (path : String) (fixture : Fixture) : Except Breakdown Output := do
  let names ← (Entries.names fixture).mapM shown
  match draw ("Tables in " ++ fileName path) ("Table", "Rows")
      ((Sorting.distinctTexts names).map fun name => (name, (fixture.store.rows name).length)) with
  | .error f => .error (.ofMarkup f)
  | .ok lines => .ok ⟨0, lines⟩

def runTables (path : String) (file : Except FileFault Text.Octets) : Except Breakdown Output :=
  match loadFixture path file with
  | .error f => .error (.fault f)
  | .ok (.error f) => f.refuse path
  | .ok (.ok fixture) => overview path fixture

def Command.fixture? : Command → Option String
  | query fixture .. => some fixture
  | tables fixture => some fixture
  | version => none

def Command.run (settings : Settings) (file : Except FileFault Text.Octets) :
    Command → Except Breakdown Output
  | query fixture request headers data =>
      runQuery settings (plainPath fixture) file request headers data
  | tables fixture => runTables (plainPath fixture) file
  | version => .ok ⟨0, [programVersion]⟩

end TableServer.Console
