import TableServer.Table.Store
import TableServer.Text.Parts
import TableServer.Text.Utf8
import TableServer.Value.Reader

/-! Fixtures: files with tables. A fixture is a JSON object of lists of rows. -/
namespace TableServer.Console

/-- Why a file could not be read: the system refused it with a code, or its path can name no file
because it holds the character that ends names. -/
inductive FileFault where
  | refused (code : Nat) (reason : String)
  | unnameable

def pathParts (path : List Char) : List (List Char) :=
  (Text.splitOn '/' path).filter fun part => !part.isEmpty && part != ['.']

/-- The slashes at the start of a path: just two of them are kept. -/
def pathRoot : List Char → List Char
  | '/' :: '/' :: '/' :: _ => ['/']
  | '/' :: '/' :: _ => ['/', '/']
  | '/' :: _ => ['/']
  | _ => []

def plainPath (path : String) : String :=
  match pathRoot path.toList ++ List.intercalate ['/'] (pathParts path.toList) with
  | [] => "."
  | plain => String.ofList plain

def fileName (path : String) : String :=
  String.ofList ((pathParts path.toList).getLast?.getD [])

inductive FixtureFault where
  | unreadable (message : String)
  | shape

def refusalMessage (path : String) (code : Nat) (reason : String) : String :=
  "[Errno " ++ toString code ++ "] " ++ reason ++ ": " ++ Text.quoted path

def unifyLines : List Char → List Char
  | '\r' :: '\n' :: rest => '\n' :: unifyLines rest
  | '\r' :: rest => '\n' :: unifyLines rest
  | c :: rest => c :: unifyLines rest
  | [] => []

abbrev Fixture := List (Codes × Table)

def tableOf? : Codes × Value → Option (Codes × Table)
  | (name, .array rows) => some (name, rows)
  | _ => none

def fixtureOf? : Value → Option Fixture
  | .object members => members.mapM tableOf?
  | _ => none

/-- The store of a fixture. Addresses hold no surrogates, so that tables whose names do are not
found. -/
def Fixture.store (f : Fixture) : Store :=
  ⟨f.filterMap fun t => t.1.string?.map fun name => (name, t.2)⟩

def readFixture (octets : Text.Octets) : Except Fault (Except FixtureFault Fixture) :=
  match Text.strict (Text.Utf8.events octets) with
  | .error f => .error (.value f.message)
  | .ok text =>
      let text := Codes.ofChars (unifyLines text)
      match Value.read text with
      | .error (.integerTooLong digits) => .error (.value (Value.tooLongMessage digits))
      | .error (.malformed cause rest) =>
          .ok (.error (.unreadable (Value.ReadFault.message text (.malformed cause rest))))
      | .ok v =>
          match fixtureOf? v with
          | none => .ok (.error .shape)
          | some f => .ok (.ok f)

def loadFixture (path : String) :
    Except FileFault Text.Octets → Except Fault (Except FixtureFault Fixture)
  | .error (.refused code reason) => .ok (.error (.unreadable (refusalMessage path code reason)))
  | .error .unnameable => .error (.value "embedded null byte")
  | .ok octets => readFixture octets

end TableServer.Console
