import TableServer.Failure
import TableServer.Number.Reader
import TableServer.Text.Digit
import TableServer.Text.Parts

/-! Columns and the JSON paths that lead into them: `base->member->>last`. A step goes to a
member of an object or to an item of a list; the last arrow `->>` asks for the text. -/
namespace TableServer

inductive Arrow where
  | value
  | text
deriving DecidableEq

structure Step where
  arrow : Arrow
  key : List Char
deriving DecidableEq

structure Path where
  base : List Char
  steps : List Step
deriving DecidableEq

namespace Path

/-- Cuts at every arrow; of two that start at one place the longer counts. -/
def read : List Char → Path
  | '-' :: '>' :: '>' :: rest =>
      let p := read rest
      ⟨[], ⟨.text, p.base⟩ :: p.steps⟩
  | '-' :: '>' :: rest =>
      let p := read rest
      ⟨[], ⟨.value, p.base⟩ :: p.steps⟩
  | c :: rest =>
      let p := read rest
      ⟨c :: p.base, p.steps⟩
  | [] => ⟨[], []⟩

end Path

/-- Minus signs with digit figures behind them ask for an item of a list. -/
def isIndexKey (key : List Char) : Bool :=
  let figures := key.dropWhile (· = '-')
  !figures.isEmpty && figures.all Text.isDigitFigure

/-- The item at a place; negative places count from the end. -/
def itemAt (items : List Value) (place : Int) : Value :=
  if 0 ≤ place then (items[place.toNat]?).getD .null
  else if -(items.length : Int) ≤ place then
    (items[(place + items.length).toNat]?).getD .null
  else .null

/-- One step into a value; null where there is nothing to find. -/
def Step.into (v : Value) (key : List Char) : Except Fault Value :=
  match v with
  | .object members => .ok ((Entries.find? (Codes.ofChars key) members).getD .null)
  | .array items =>
      if isIndexKey key then
        match Number.readInteger key with
        | .ok place => .ok (itemAt items place)
        | .error cause => .error (.integer cause key)
      else .ok .null
  | _ => .ok .null

def Path.present (steps : List Step) (v : Value) : Value :=
  match steps.getLast? with
  | some ⟨.text, _⟩ =>
      match v with
      | .null => .null
      | .string s => .string s
      | v => .string v.text
  | _ => v

def Path.follow (v : Value) (steps : List Step) : Except Fault Value :=
  steps.foldlM (fun v s => Step.into v s.key) v

def Path.resolve (p : Path) (row : Members) : Except Fault Value :=
  (Path.follow ((Entries.find? (Codes.ofChars p.base) row).getD .null) p.steps).map
    (Path.present p.steps)

def resolveColumn (row : Members) (column : String) : Except Fault Value :=
  (Path.read column.toList).resolve row

def isPath (column : String) : Bool :=
  Text.occursIn ['-', '>'] column.toList

/-- The value of a column in a row that has to be an object. -/
def resolveIn (row : Value) (column : String) : Except Fault Value :=
  match row with
  | .object members => resolveColumn members column
  | other => .error (.member other.typeName "get")

end TableServer
