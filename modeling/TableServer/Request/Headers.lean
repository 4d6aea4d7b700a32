import TableServer.Entries
import TableServer.Text.Case

/-! Headers: texts under names that count in any case. -/
namespace TableServer

abbrev Headers := Entries String

namespace Headers

def lowered (name : String) : String :=
  String.ofList (Text.lower name.toList)

/-- Headers with names in lower case. Of two names that differ only in case the last gives the
text. -/
def normalize (headers : Headers) : Headers :=
  Entries.ofPairs (headers.map fun h => (lowered h.1, h.2))

def findFolded? (name : String) : Headers → Option String
  | [] => none
  | (key, text) :: rest => if lowered key = name then some text else findFolded? name rest

/-- The text of a header: of the one spelt exactly so, else of the first one in any case. -/
def look? (name : String) (headers : Headers) : Option String :=
  match Entries.find? name headers with
  | some text => some text
  | none => findFolded? (lowered name) headers

end Headers

end TableServer
