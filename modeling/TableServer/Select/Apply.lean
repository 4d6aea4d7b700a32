import TableServer.Failure
import TableServer.Select.Basic

/-! Projecting rows: the selected columns in the order of the select list, and embeds projected by
their own select lists. -/
namespace TableServer

/-- Applies a function of objects to an object or to every object in a list, at any depth of
lists; other values stay. -/
def overObjects (f : Members → Except Fault Members) : Value → Except Fault Value
  | .object members => (f members).map .object
  | .array items => (overItems f items).map .array
  | v => .ok v
where
  overItems (f : Members → Except Fault Members) :
      List Value → Except Fault (List Value)
    | [] => .ok []
    | v :: rest =>
        match overObjects f v with
        | .error fault => .error fault
        | .ok w => (overItems f rest).map (w :: ·)

namespace Projection

/-- Adds the columns that are paths or present in the row. -/
def addColumns (row : Members) : List ColumnRef → Members → Except Fault Members
  | [], result => .ok result
  | c :: rest, result =>
      if isPath c.name || Entries.has ↑c.name row then
        match resolveColumn row c.name with
        | .error fault => .error fault
        | .ok v => addColumns row rest (Entries.put ↑c.outputKey v result)
      else addColumns row rest result

/-- The result before an embed is added: an alias takes the place of the relation's own key. -/
def clearRelation (e : Embed) (result : Members) : Members :=
  if e.givenAlias?.isSome then Entries.erase ↑e.relation result else result

mutual

def ofMembers : Projection → Members → Except Fault Members
  | ⟨wildcard, columns, embeds⟩, row =>
      match addColumns row columns (if wildcard then row else []) with
      | .error fault => .error fault
      | .ok result => addEmbeds embeds row result
termination_by structural p => p

/-- Adds the embeds whose relation is present in the row. -/
def addEmbeds : List (Embed × Projection) → Members → Members →
    Except Fault Members
  | [], _, result => .ok result
  | (e, inner) :: rest, row, result =>
      match Entries.find? ↑e.relation row with
      | none => addEmbeds rest row result
      | some related =>
          match overObjects (ofMembers inner) related with
          | .error fault => .error fault
          | .ok v => addEmbeds rest row (Entries.put ↑e.outputKey v (clearRelation e result))
termination_by structural es => es

end

/-! A row that is no object has neither columns nor relations. Reading it as one fails except
where nothing is found in it. -/

/-- Whether a name is found in a row that is no object. -/
def foundIn (name : String) : Value → Except Fault Bool
  | .array items => .ok (items.any fun
      | .string s => s = name
      | _ => false)
  | .string s => .ok (Text.occursIn ↑name s)
  | v => .error (.type (.noMembership v.typeName))

def pairKey : Value → Except Fault Codes
  | .array _ => .error (.type (.noKey "list"))
  | .object _ => .error (.type (.noKey "dict"))
  | .string s => .ok s
  | v => .ok v.scalarText

def pairOf (place : Nat) : Value → Except Fault (Codes × Value)
  | .array [k, v] => (pairKey k).map fun name => (name, v)
  | .array items => .error (.pairLength place items.length)
  | .string s =>
      match s with
      | [k, v] => .ok ([k], .string [v])
      | cs => .error (.pairLength place cs.length)
  | .object [(k, _), (v, _)] => .ok (k, .string v)
  | .object members => .error (.pairLength place members.length)
  | _ => .error (.type (.noPair place))

def pairsFrom (place : Nat) : List Value → Except Fault Members
  | [] => .ok []
  | v :: rest =>
      match pairOf place v with
      | .error fault => .error fault
      | .ok pair => (pairsFrom (place + 1) rest).map (pair :: ·)

def membersOf : Value → Except Fault Members
  | .object members => .ok members
  | .array items => (pairsFrom 0 items).map Entries.ofPairs
  | .string s =>
      match s with
      | [] => .ok []
      | _ => .error (.pairLength 0 1)
  | v => .error (.type (.notIterable v.typeName))

def checkColumns (row : Value) : List ColumnRef → Except Fault Unit
  | [] => .ok ()
  | c :: rest =>
      if isPath c.name then .error (.member row.typeName "get")
      else
        match foundIn c.name row with
        | .error fault => .error fault
        | .ok true => .error (.member row.typeName "get")
        | .ok false => checkColumns row rest

def takeFault : Value → Fault
  | .string _ => .type .textKeyOnText
  | _ => .type .textKeyOnList

def checkEmbeds (row : Value) : List (Embed × Projection) → Except Fault Unit
  | [] => .ok ()
  | (e, _) :: rest =>
      match foundIn e.relation row with
      | .error fault => .error fault
      | .ok true => .error (takeFault row)
      | .ok false => checkEmbeds row rest

def ofOther (p : Projection) (row : Value) : Except Fault Members := do
  let start ← if p.wildcard then membersOf row else .ok []
  checkColumns row p.columns
  checkEmbeds row p.embeds
  return start

def row (p : Projection) : Value → Except Fault Value
  | .object members => (p.ofMembers members).map .object
  | other => (p.ofOther other).map .object

def rows (p : Projection) : List Value → Except Fault (List Value)
  | [] => .ok []
  | r :: rest =>
      match p.row r with
      | .error fault => .error fault
      | .ok v => (p.rows rest).map (v :: ·)

end Projection

end TableServer
