import TableServer.Query.Basic
import TableServer.Select.Apply

/-! Running a query over rows in stages: filters of the rows, filters of referenced tables, inner
embeds, the count, orders, windows, and the projection. -/
namespace TableServer

/-- The rows of a query, the number of rows that matched before the window, and its offset. -/
structure QueryResult where
  rows : List Value
  total : Nat
  offset : Nat

namespace QueryResult

def contentRange (r : QueryResult) : String :=
  toString r.offset ++ "-" ++ toString (r.offset + r.rows.length) ++ "/" ++ toString r.total

end QueryResult

namespace Query

def overRows (f : Value → Outcome Value) : List Value → Outcome (List Value)
  | [] => .ok []
  | row :: rest =>
      match f row with
      | .error e => .error e
      | .ok v => (overRows f rest).map (v :: ·)

def missingRelation (relation : String) : Failure :=
  .service ((ServiceError.malformed
    ("Referenced table \"" ++ relation ++ "\" not found in row")).withHint
      ("embed " ++ relation ++ " in the select list or check the relation name"))

/-- The related value that a filter leaves: a list is narrowed, an object that fails is nulled. -/
def filterRelated (f : Filter) (relation : String) (related : Value) : Outcome Value :=
  match related with
  | .null => .ok .null
  | .object members =>
      match f.holds (.object members) with
      | .error fault => .error (.fault fault)
      | .ok kept => .ok (if kept then .object members else .null)
  | .array items =>
      match selectRows f.holds items with
      | .error fault => .error (.fault fault)
      | .ok kept => .ok (.array kept)
  | other =>
      .error (.malformed ("Referenced table \"" ++ relation ++ "\" holds a " ++ other.kind.name ++
        ", not an object or list"))

/-- Filters a referenced table within one row, which is kept either way. -/
def filterEmbedded (relation : String) (f : Filter) : Value → Outcome Value
  | .object members =>
      match Entries.find? ↑relation members with
      | none => .error (missingRelation relation)
      | some related =>
          (filterRelated f relation related).map fun v => .object (Entries.put ↑relation v members)
  | other =>
      match Projection.foundIn relation other with
      | .error fault => .error (.fault fault)
      | .ok true => .error (.fault (Projection.takeFault other))
      | .ok false => .error (missingRelation relation)

/-- Filters every referenced table that has filters, in the order of the parameters. -/
def filterRelations : Entries Scope → List Value → Outcome (List Value)
  | [], rows => .ok rows
  | (relation, s) :: rest, rows =>
      match s.predicate? with
      | none => filterRelations rest rows
      | some f =>
          match overRows (filterEmbedded relation f) rows with
          | .error e => .error e
          | .ok rows => filterRelations rest rows

/-- Whether a row holds something of a relation. -/
def hasRelated (relation : String) : Value → Except Fault Bool
  | .object members =>
      .ok (match (Entries.find? ↑relation members).getD .null with
        | .null => false
        | .array items => !items.isEmpty
        | _ => true)
  | other => .error (.member other.typeName "get")

def keepInner : List String → List Value → Except Fault (List Value)
  | [], rows => .ok rows
  | relation :: rest, rows =>
      match selectRows (hasRelated relation) rows with
      | .error fault => .error fault
      | .ok kept => keepInner rest kept

def mapList (relation : String) (f : List Value → Except Fault (List Value)) :
    Value → Outcome Value
  | .object members =>
      match Entries.find? ↑relation members with
      | some (.array items) =>
          match f items with
          | .error fault => .error (.fault fault)
          | .ok items => .ok (.object (Entries.put ↑relation (.array items) members))
      | _ => .ok (.object members)
  | other => .error (.fault (.member other.typeName "get"))

def orderRelations : Entries Scope → List Value → Outcome (List Value)
  | [], rows => .ok rows
  | (relation, s) :: rest, rows =>
      if s.order.isEmpty then orderRelations rest rows
      else
        match overRows (mapList relation (orderRows s.order)) rows with
        | .error e => .error e
        | .ok rows => orderRelations rest rows

def windowRelations : Entries Scope → List Value → Outcome (List Value)
  | [], rows => .ok rows
  | (relation, s) :: rest, rows =>
      if s.window = .whole then windowRelations rest rows
      else
        match overRows (mapList relation fun items => .ok (s.window.apply items)) rows with
        | .error e => .error e
        | .ok rows => windowRelations rest rows

/-- Lets a fault of a pure stage fail the request. -/
def stage {α : Type} : Except Fault α → Outcome α
  | .ok a => .ok a
  | .error fault => .error (.fault fault)

/-- The rows that match: filters, filters of referenced tables, inner embeds. -/
def matching (q : Query) (rows : List Value) : Outcome (List Value) := do
  let kept ← stage (match q.scope.predicate? with
    | none => .ok rows
    | some f => selectRows f.holds rows)
  let narrowed ← filterRelations q.embedded kept
  stage (keepInner q.projection.innerRelations narrowed)

def ordered (q : Query) (rows : List Value) : Outcome (List Value) := do
  let sorted ← stage (orderRows q.scope.order rows)
  orderRelations q.embedded sorted

def run (q : Query) (rows : List Value) : Outcome QueryResult := do
  let found ← q.matching rows
  let sorted ← q.ordered found
  let shown ← windowRelations q.embedded (q.scope.window.apply sorted)
  let projected ← stage (q.projection.rows shown)
  return ⟨projected, found.length, q.scope.window.offset.getD 0⟩

end Query

end TableServer
