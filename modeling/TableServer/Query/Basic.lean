import TableServer.Filter.Basic
import TableServer.Query.Order
import TableServer.Query.Window
import TableServer.Select.Basic

/-! Queries: what to keep, in which order, which window and which columns. The same scope serves
the rows themselves and each referenced table. -/
namespace TableServer

structure Scope where
  filters : List Filter
  order : List OrderTerm
  window : Window

/-- What one parameter adds to a scope. -/
inductive Clause where
  | filter (f : Filter)
  | order (terms : List OrderTerm)
  | limit (n : Nat)
  | offset (n : Nat)
  | window (w : Window)

namespace Scope

def empty : Scope :=
  ⟨[], [], .whole⟩

/-- Filters and order terms are collected; of counts and windows the last one counts. -/
def add (s : Scope) : Clause → Scope
  | .filter f => { s with filters := s.filters ++ [f] }
  | .order terms => { s with order := s.order ++ terms }
  | .limit n => { s with window := { s.window with limit := some n } }
  | .offset n => { s with window := { s.window with offset := some n } }
  | .window w => { s with window := w }

def predicate? (s : Scope) : Option Filter :=
  Filter.conjoin s.filters

end Scope

structure Query where
  scope : Scope
  embedded : Entries Scope
  projection : Projection

/-- A parameter of a query: one that adds nothing here, a clause for the rows, or a clause for a
referenced table. -/
inductive Parameter where
  | silent
  | top (c : Clause)
  | embedded (relation : String) (c : Clause)

namespace Query

/-- A query of rows without referenced tables that keeps all columns. -/
def ofScope (s : Scope) : Query :=
  ⟨s, [], .everything⟩

def scopeOf (q : Query) (relation : String) : Scope :=
  (Entries.find? relation q.embedded).getD .empty

def add (q : Query) : Parameter → Query
  | .silent => q
  | .top c => { q with scope := q.scope.add c }
  | .embedded relation c =>
      { q with embedded := Entries.put relation ((q.scopeOf relation).add c) q.embedded }

def ofParameters (p : Projection) (parameters : List Parameter) : Query :=
  parameters.foldl add ⟨.empty, [], p⟩

end Query

end TableServer
