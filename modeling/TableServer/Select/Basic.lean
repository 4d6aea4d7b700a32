import TableServer.Column.Path

/-! Select lists: the columns to keep and the referenced tables to embed, each with a select list
of its own. -/
namespace TableServer

structure ColumnRef where
  name : String
  label : Option String
deriving DecidableEq

/-- A referenced table; `inner` keeps only rows that hold something there. -/
structure Embed where
  relation : String
  label : Option String
  inner : Bool
deriving DecidableEq

structure Projection where
  wildcard : Bool
  columns : List ColumnRef
  embeds : List (Embed × Projection)

namespace ColumnRef

/-- The key in the result: the alias, or the last key of a path, or the name. -/
def outputKey (c : ColumnRef) : String :=
  match c.label with
  | some label => if label = "" then plainKey c.name else label
  | none => plainKey c.name
where
  plainKey (name : String) : String :=
    match (Path.read name.toList).steps.getLast? with
    | some s => String.ofList s.key
    | none => name

end ColumnRef

namespace Embed

/-- An empty alias counts as none. -/
def givenAlias? (e : Embed) : Option String :=
  e.label.filter (· ≠ "")

def outputKey (e : Embed) : String :=
  e.givenAlias?.getD e.relation

end Embed

namespace Projection

def everything : Projection :=
  ⟨true, [], []⟩

def embedFor? (p : Projection) (name : String) : Option Embed :=
  (p.embeds.map Prod.fst).find? fun e => e.relation = name || e.label = some name

/-- The relation that a name in a parameter means. -/
def relationFor (p : Projection) (name : String) : String :=
  ((p.embedFor? name).map Embed.relation).getD name

def innerRelations (p : Projection) : List String :=
  (p.embeds.filter (·.1.inner)).map (·.1.relation)

end Projection

end TableServer
