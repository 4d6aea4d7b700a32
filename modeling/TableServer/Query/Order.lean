import TableServer.Column.Path
import TableServer.Grammar.Literal
import TableServer.Order.Key
import TableServer.Order.Sorting

/-! Orders of rows: terms `column.desc.nullsfirst`, of which the first counts most. Nulls come
last ascending and first descending unless a term says otherwise. -/
namespace TableServer

structure OrderTerm where
  column : String
  ascending : Bool
  nullsFirst : Option Bool
deriving DecidableEq

namespace OrderTerm

def modify (raw : List Char) (t : OrderTerm) (modifier : List Char) : Outcome OrderTerm :=
  if modifier = "asc".toList then .ok { t with ascending := true }
  else if modifier = "desc".toList then .ok { t with ascending := false }
  else if modifier = "nullsfirst".toList then .ok { t with nullsFirst := some true }
  else if modifier = "nullslast".toList then .ok { t with nullsFirst := some false }
  else .error (.malformed ("Invalid order modifier \"" ++ String.ofList modifier ++ "\" in \"" ++
    String.ofList raw ++ "\""))

def read (raw : List Char) : Outcome OrderTerm :=
  match Text.splitOn '.' (Text.trim raw) with
  | (c :: column) :: modifiers =>
      modifiers.foldlM (modify raw) ⟨String.ofList (c :: column), true, none⟩
  | _ => .error (.malformed ("Invalid order term \"" ++ String.ofList raw ++ "\""))

def readList (text : List Char) : Outcome (List OrderTerm) := do
  let parts ← Grammar.splitTopLevel ',' text
  parts.mapM read

def putsNullsFirst (t : OrderTerm) : Bool :=
  t.nullsFirst.getD (!t.ascending)

/-- The sort key of a row; rows that are no objects have none, as have nulls. -/
def key? (t : OrderTerm) : Value → Except Fault (Option SortKey)
  | .object members =>
      (resolveColumn members t.column).map fun
        | .null => none
        | v => some (SortKey.ofValue v)
  | _ => .ok none

/-- The order of keys in which the rows ascend; a descending term reads it backwards. -/
def lt (t : OrderTerm) : Option SortKey → Option SortKey → Bool
  | none, none => false
  | none, some _ => t.putsNullsFirst == t.ascending
  | some _, none => t.putsNullsFirst != t.ascending
  | some a, some b => a.lt b

def comparable : Option SortKey → Bool
  | none => true
  | some k => !k.isNan

def keyed (t : OrderTerm) : List Value → Except Fault (List (Option SortKey × Value))
  | [] => .ok []
  | row :: rest =>
      match t.key? row with
      | .error fault => .error fault
      | .ok k => (t.keyed rest).map ((k, row) :: ·)

def sortRows (t : OrderTerm) (rows : List Value) : Except Fault (List Value) :=
  (t.keyed rows).map fun pairs =>
    let less := fun (a b : Option SortKey × Value) => t.lt a.1 b.1
    let fine := fun (a : Option SortKey × Value) => comparable a.1
    let sorted :=
      if t.ascending then Sorting.sort fine less pairs else Sorting.sortDown fine less pairs
    sorted.map Prod.snd

end OrderTerm

/-- Sorts by the last term first, so that the first one counts most. -/
def orderRows : List OrderTerm → List Value → Except Fault (List Value)
  | [], rows => .ok rows
  | t :: rest, rows =>
      match orderRows rest rows with
      | .error fault => .error fault
      | .ok sorted => t.sortRows sorted

end TableServer
