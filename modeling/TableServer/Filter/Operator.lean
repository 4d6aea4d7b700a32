import TableServer.Failure
import TableServer.Text.Word
import TableServer.Text.Parts

/-! Operators of filters: their names, long names and the text search variants. -/
namespace TableServer

inductive Operator where
  | eq
  | neq
  | gt
  | gte
  | lt
  | lte
  | like
  | ilike
  | isNull
  | oneOf
  | contains
  | containedBy
  | overlaps
  | search
  | agrees
deriving DecidableEq

namespace Operator

def name : Operator → String
  | eq => "eq"
  | neq => "neq"
  | gt => "gt"
  | gte => "gte"
  | lt => "lt"
  | lte => "lte"
  | like => "like"
  | ilike => "ilike"
  | isNull => "is"
  | oneOf => "in"
  | contains => "cs"
  | containedBy => "cd"
  | overlaps => "ov"
  | search => "fts"
  | agrees => "match"

/-- Every accepted name, in the order of their code points. -/
def names : List (String × Operator) :=
  [("cd", containedBy), ("containedBy", containedBy), ("cs", contains), ("eq", eq),
   ("fts", search), ("gt", gt), ("gte", gte), ("ilike", ilike), ("in", oneOf), ("is", isNull),
   ("like", like), ("lt", lt), ("lte", lte), ("match", agrees), ("neq", neq), ("ov", overlaps),
   ("overlaps", overlaps), ("phfts", search), ("plfts", search), ("wfts", search)]

def ofName? (name : String) : Option Operator :=
  names.lookup name

/-- The name in front of a parenthesised word, as in `fts(english)`; one final line feed may
follow. -/
def configured? (token : List Char) : Option (List Char) :=
  let name := token.takeWhile Text.isWord
  let rest := token.dropWhile Text.isWord
  if name.isEmpty then none
  else
    match rest with
    | '(' :: inner =>
        let tail := inner.dropWhile Text.isWord
        if (inner.takeWhile Text.isWord).isEmpty then none
        else if tail = [')'] ∨ tail = [')', '\n'] then some name
        else none
    | _ => none

/-- The name that a token stands for; a configuration behind it is ignored. -/
def bareName (token : List Char) : String :=
  String.ofList ((configured? token).getD token)

def read (token : List Char) : Outcome Operator :=
  match ofName? (bareName token) with
  | some operator => .ok operator
  | none =>
      .error (.service ((ServiceError.malformed
        ("Unsupported filter operator \"" ++ bareName token ++ "\"")).withHint
          ("supported operators: " ++ String.intercalate ", " (names.map Prod.fst))))

end Operator

end TableServer
