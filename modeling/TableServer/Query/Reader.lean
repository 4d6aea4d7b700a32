import TableServer.Filter.Reader
import TableServer.Query.Basic
import TableServer.Select.Reader

/-! Queries read from the pairs of a query string. A key is a modifier, a logic key, a column, or
one of these behind the name of a referenced table and a dot. -/
namespace TableServer

/-- Keys with a meaning of their own, which never name columns. -/
def reservedKeys : List String :=
  ["select", "order", "limit", "offset", "range", "on_conflict", "columns"]

def readModifier? (key modifier : String) (value : List Char) : Option (Outcome Clause) :=
  match modifier with
  | "order" => some ((OrderTerm.readList value).map .order)
  | "limit" => some ((Window.readCount key value).map .limit)
  | "offset" => some ((Window.readCount key value).map .offset)
  | "range" => some ((Window.readRange key value).map .window)
  | _ => none

def readFilter (key value : List Char) : Outcome Filter :=
  if (Filter.logicKey? key).isSome then Filter.readLogic key value else Filter.read key value

namespace Parameter

def read (p : Projection) (pair : String × String) : Outcome Parameter :=
  let (key, value) := (pair.1, pair.2.toList)
  if reservedKeys.contains key then
    match readModifier? key key value with
    | some clause => clause.map .top
    | none => .ok .silent
  else if Filter.isLogicKey key then (Filter.readLogic key.toList value).map (.top ∘ .filter)
  else
    match Text.cut? '.' key.toList with
    | none => (Filter.read key.toList value).map (.top ∘ .filter)
    | some (name, rest) =>
        let relation := p.relationFor (String.ofList name)
        match readModifier? key (String.ofList rest) value with
        | some clause => clause.map (.embedded relation)
        | none => (readFilter rest value).map (.embedded relation ∘ .filter)

end Parameter

namespace Query

/-- The select list of the last select pair. -/
def readProjection (pairs : List (String × String)) : Outcome Projection :=
  pairs.foldlM (fun p pair =>
    if pair.1 = "select" then Projection.read pair.2.toList else .ok p) .everything

/-- The header tells the window where no parameter does. -/
def withHeader (header : Option String) (q : Query) : Outcome Query :=
  if q.scope.window = .whole then
    (Window.readHeader header).map fun w => { q with scope := { q.scope with window := w } }
  else .ok q

def read (pairs : List (String × String)) (header : Option String) : Outcome Query := do
  let p ← readProjection pairs
  let parameters ← pairs.mapM (Parameter.read p)
  withHeader header (ofParameters p parameters)

end Query

end TableServer
