import TableServer.Entries
import TableServer.Http.Address

/-! Targets of HTTP requests: the path of an address and the parameters behind it, without
escapes. -/
namespace TableServer

structure Target where
  path : String
  query : List (String × String)

namespace Target

def readPair (part : List Char) : String × String :=
  match Text.cut? '=' part with
  | some (name, text) => (Escape.decodeForm name, Escape.decodeForm text)
  | none => (Escape.decodeForm part, "")

/-- Brings the pairs of each name together at the place of the first. -/
def gather (pairs : List (String × String)) : List (String × String) :=
  let grouped : Entries (List String) := pairs.foldl (fun acc p =>
    Entries.put p.1 ((Entries.find? p.1 acc).getD [] ++ [p.2]) acc) []
  grouped.flatMap fun g => g.2.map fun text => (g.1, text)

def readQuery (query : List Char) : List (String × String) :=
  gather (((Text.splitOn '&' query).filter fun part => !part.isEmpty).map readPair)

def ofAddress (a : Address) : Target :=
  ⟨Escape.decode (if a.path.isEmpty then ['/'] else a.path), readQuery (a.query.getD [])⟩

end Target

end TableServer
