import TableServer.Table.Rows

/-! The store: named tables in the order of their creation. A write answers or fails and leaves a
store; a table comes to be with its first write. -/
namespace TableServer

structure Store where
  tables : Entries Table

/-- What an operation answers, and the store that it leaves. -/
abbrev Effect (α : Type) := Outcome α × Store

namespace Store

def empty : Store :=
  ⟨[]⟩

/-- The name under which a table of a schema is kept. -/
def qualify (schema table : String) : String :=
  schema ++ "." ++ table

def rows (s : Store) (name : String) : Table :=
  (Entries.find? name s.tables).getD []

def put (s : Store) (name : String) (table : Table) : Store :=
  ⟨Entries.put name table s.tables⟩

def remove (s : Store) (name : String) : Store :=
  ⟨Entries.erase name s.tables⟩

def ensure (s : Store) (name : String) : Store :=
  if Entries.has name s.tables then s else s.put name []

@[simp] theorem rows_put_self (s : Store) (name : String) (table : Table) :
    (s.put name table).rows name = table := by
  simp [rows, put]

theorem rows_put_of_ne {name other : String} (h : other ≠ name) (s : Store) (table : Table) :
    (s.put name table).rows other = s.rows other := by
  simp [rows, put, Entries.find?_put_of_ne h]

def insert (s : Store) (name : String) (payload : Value) : Effect (List Nat) :=
  match Table.payloadRows payload with
  | .error e => (.error e, s)
  | .ok rows =>
      (.ok (Table.appended (s.rows name) rows.length), s.put name ((s.rows name).append rows))

/-- Inserts or merges the rows of a payload by their identity. -/
def upsert (s : Store) (name : String) (payload : Value) (ignore : Bool) : Effect (List Nat) :=
  match Table.payloadRows payload with
  | .error e => (.error e, s)
  | .ok rows =>
      let (positions, table) := Table.upsertRows ignore rows (s.rows name)
      (positions.mapError .fault, s.put name table)

def updateNeedsFilter : Failure :=
  .service (.ofKind .validation "UPDATE requires a filter" .none
    (some "Add at least one filter to the request"))

def deleteNeedsFilter : Failure :=
  .service (.ofKind .validation "DELETE requires a filter" .none
    (some "Add at least one filter to the request"))

def nothingMatched (name : String) : Failure :=
  .service ((ServiceError.ofKind .notFound "Not found" .none none).withDetails
    ("no rows in " ++ name ++ " matched the update filters"))

def patchOf : Value → Outcome Members
  | .null => .error Table.noData
  | .object members => .ok members
  | _ => .error (Table.badData "update payload must be an object")

def update (s : Store) (name : String) (predicate : Option RowPredicate) (payload : Value) :
    Effect (List Nat) :=
  match patchOf payload, predicate with
  | .error e, _ => (.error e, s)
  | .ok _, none => (.error updateNeedsFilter, s)
  | .ok patch, some p =>
      match (s.rows name).decide p with
      | .error fault => (.error (.fault fault), s)
      | .ok decisions =>
          let positions := Table.positionsFrom 0 decisions
          if positions.isEmpty then (.error (nothingMatched name), s)
          else
            let (done, table) := Table.patchAll patch positions (s.rows name)
            ((done.mapError .fault).map fun _ => positions, s.put name table)

def delete (s : Store) (name : String) (predicate : Option RowPredicate) : Effect (List Value) :=
  match predicate with
  | none => (.error deleteNeedsFilter, s)
  | some p =>
      match (s.rows name).decide p with
      | .error fault => (.error (.fault fault), s)
      | .ok decisions =>
          if (s.rows name).isEmpty then (.ok [], s)
          else
            let (kept, removed) := Table.part decisions (s.rows name)
            (.ok removed, s.put name kept)

/-- The rows that a write touched, as they stand in the store that it left. -/
def touched (name : String) (effect : Effect (List Nat)) : Effect (List Value) :=
  (effect.1.map (Table.rowsAt (effect.2.rows name)), effect.2)

def summary (s : Store) : String :=
  "RelationalStore(" ++ String.intercalate ", "
    (s.tables.map fun (name, table) => name ++ "=" ++ toString table.length) ++ ")"

end Store

end TableServer
