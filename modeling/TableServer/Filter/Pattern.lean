import TableServer.Text.Case
import TableServer.Text.Codes

/-! Patterns of whole texts: `%` and `*` stand for any characters, `_` for exactly one, and every
other character for itself. -/
namespace TableServer

inductive Piece where
  | many
  | one
  | exact (c : Char)
deriving DecidableEq

abbrev Pattern := List Piece

namespace Pattern

def pieceOf (c : Char) : Piece :=
  if c = '%' ∨ c = '*' then .many
  else if c = '_' then .one
  else .exact c

def read (literal : List Char) : Pattern :=
  literal.map pieceOf

/-- Whether some suffix of the text, the whole of it included, satisfies the test. -/
def someSuffix {α : Type} (test : List α → Bool) : List α → Bool
  | [] => test []
  | c :: rest => test (c :: rest) || someSuffix test rest

/-- Whether the pattern covers the whole text, with `same` to compare single characters. -/
def covers {α : Type} (same : Char → α → Bool) : Pattern → List α → Bool
  | [], text => text.isEmpty
  | .many :: rest, text => someSuffix (covers same rest) text
  | .one :: rest, text =>
      match text with
      | [] => false
      | _ :: tail => covers same rest tail
  | .exact p :: rest, text =>
      match text with
      | [] => false
      | c :: tail => same p c && covers same rest tail

def coversExactly (p : Pattern) (text : Codes) : Bool :=
  covers (fun a b => .char a == b) p text

def coversFolded (p : Pattern) (text : Codes) : Bool :=
  covers (fun a b => b.char?.any (Text.sameFolded a)) p text

end Pattern

end TableServer
