import TableServer.Entries
import TableServer.Text.Blank
import TableServer.Text.Parts

/-! Preferences of a request, such as `return=representation,count=exact`. -/
namespace TableServer

inductive Resolution where
  | mergeDuplicates
  | ignoreDuplicates
deriving DecidableEq

namespace Resolution

def name : Resolution → String
  | mergeDuplicates => "merge-duplicates"
  | ignoreDuplicates => "ignore-duplicates"

def ofName? (text : String) : Option Resolution :=
  [mergeDuplicates, ignoreDuplicates].find? fun r => r.name = text

end Resolution

/-- How rows are counted; every mode counts them exactly. -/
inductive CountMode where
  | exact
  | planned
  | estimated
deriving DecidableEq

namespace CountMode

def name : CountMode → String
  | exact => "exact"
  | planned => "planned"
  | estimated => "estimated"

def ofName? (text : String) : Option CountMode :=
  [exact, planned, estimated].find? fun m => m.name = text

end CountMode

structure Preferences where
  resolution : Option Resolution
  count : Option CountMode
  returning : Option String

namespace Preferences

/-- Whether a row whose identity exists is no new row. -/
def merges (p : Preferences) : Bool :=
  p.resolution.isSome

def ignoresDuplicates (p : Preferences) : Bool :=
  p.resolution == some .ignoreDuplicates

def minimal (p : Preferences) : Bool :=
  p.returning == some "minimal"

/-- The name and the text of one token; tokens without either tell nothing. -/
def readToken? (token : List Char) : Option (String × String) :=
  match Text.cut? '=' (Text.trim token) with
  | some (name@(_ :: _), text@(_ :: _)) =>
      some (String.ofList (Text.trim name), String.ofList (Text.trim text))
  | _ => none

/-- Reads the header. Of two tokens of a name the last counts, even if its text is unknown. -/
def read (header : Option String) : Preferences :=
  let told := Entries.ofPairs
    ((Text.splitOn ',' (header.getD "").toList).filterMap readToken?)
  { resolution := (Entries.find? "resolution" told).bind Resolution.ofName?
    count := (Entries.find? "count" told).bind CountMode.ofName?
    returning := Entries.find? "return" told }

end Preferences

end TableServer
