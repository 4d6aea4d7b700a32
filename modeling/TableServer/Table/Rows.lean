import TableServer.Failure
import TableServer.Value.Equality

/-! Writes to one table. A table is a list of rows in insertion order. Each write tells the
positions of the rows that it touched, so that the rows are returned in their final state. -/
namespace TableServer

abbrev Table := List Value

abbrev RowPredicate := Value → Except Fault Bool

namespace Table

/-- The member that identifies rows. -/
def identityKey : String := "id"

def noData : Failure :=
  .service (.ofKind .validation "No data provided" .none none)

def badData (details : String) : Failure :=
  .service ((ServiceError.ofKind .validation "Invalid data format" .none none).withDetails details)

def objectsOf : List Value → Outcome (List Members)
  | [] => .ok []
  | .object members :: rest => (objectsOf rest).map (members :: ·)
  | other :: _ => .error (badData ("expected an object, got " ++ other.typeName))

/-- The rows of a payload: one object or a list of them. -/
def payloadRows : Value → Outcome (List Members)
  | .null => .error noData
  | .array [] => .error noData
  | .array items => objectsOf items
  | other => objectsOf [other]

def rowsAt (table : Table) (positions : List Nat) : List Value :=
  positions.filterMap fun i => table[i]?

def append (table : Table) (rows : List Members) : Table :=
  table ++ rows.map .object

def appended (table : Table) (count : Nat) : List Nat :=
  (List.range count).map (table.length + ·)

def patchAt (patch : Members) : Nat → Table → Table
  | _, [] => []
  | 0, .object members :: rest => .object (Entries.merge members patch) :: rest
  | 0, row :: rest => row :: rest
  | n + 1, row :: rest => row :: patchAt patch n rest

@[simp] theorem length_patchAt (patch : Members) (position : Nat) (table : Table) :
    (patchAt patch position table).length = table.length := by
  induction table generalizing position with
  | nil => cases position <;> rfl
  | cons row rest ih =>
      cases position with
      | zero => cases row <;> rfl
      | succ n => simp [patchAt, ih]

/-- The decisions of a predicate on all rows, before anything is changed. -/
def decide (p : RowPredicate) : Table → Except Fault (List Bool)
  | [] => .ok []
  | row :: rest =>
      match p row with
      | .error fault => .error fault
      | .ok b => (decide p rest).map (b :: ·)

def positionsFrom (start : Nat) : List Bool → List Nat
  | [] => []
  | b :: rest =>
      if b then start :: positionsFrom (start + 1) rest else positionsFrom (start + 1) rest

def patchAll (patch : Members) (positions : List Nat) (table : Table) :
    Except Fault Unit × Table :=
  match positions with
  | [] => (.ok (), table)
  | i :: rest =>
      match table[i]? with
      | some (.object _) => patchAll patch rest (patchAt patch i table)
      | some other => (.error (.member other.typeName "update"), table)
      | none => patchAll patch rest table

/-- The identity of a row; absent and null are the same. -/
def identityOf (row : Members) : Value :=
  (Entries.find? ↑identityKey row).getD .null

/-- The position of the first row with an identity. The search fails at a row that is no
object. -/
def findFrom (start : Nat) (identity : Value) : Table → Except Fault (Option Nat)
  | [] => .ok none
  | .object members :: rest =>
      if (identityOf members).same identity then .ok (some start)
      else findFrom (start + 1) identity rest
  | other :: _ => .error (.member other.typeName "get")

/-- Null identifies nothing. -/
def findIdentity (identity : Value) (table : Table) : Except Fault (Option Nat) :=
  if identity.isNull then .ok none else findFrom 0 identity table

/-- Inserts one row or merges it onto the row with its identity, unless duplicates are ignored. -/
def upsertRow (ignore : Bool) (row : Members) (table : Table) : Except Fault (Nat × Table) :=
  (findIdentity (identityOf row) table).map fun
    | none => (table.length, table ++ [.object row])
    | some i => (i, if ignore then table else patchAt row i table)

/-- Upserts rows in order, up to a search that fails. -/
def upsertRows (ignore : Bool) : List Members → Table → Except Fault (List Nat) × Table
  | [], table => (.ok [], table)
  | row :: rest, table =>
      match upsertRow ignore row table with
      | .error fault => (.error fault, table)
      | .ok (i, table) =>
          let (positions, table) := upsertRows ignore rest table
          (positions.map (i :: ·), table)

def part : List Bool → Table → Table × Table
  | b :: decisions, row :: rest =>
      let (kept, removed) := part decisions rest
      if b then (kept, row :: removed) else (row :: kept, removed)
  | _, _ => ([], [])

end Table

end TableServer
