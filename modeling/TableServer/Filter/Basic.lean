import TableServer.Column.Path
import TableServer.Filter.Pattern
import TableServer.Filter.Words
import TableServer.Instant.Reader
import TableServer.Table.Rows

/-! Filters of rows. A condition applies one test to one column; conditions are negated and
joined. Deciding a filter fails only where a path cannot be followed. -/
namespace TableServer

/-- What an ordering test compares with; it decides how row values are read. -/
inductive Bound where
  | instant (i : Instant)
  | number (n : Number)
deriving DecidableEq

inductive Comparison where
  | above
  | least
  | below
  | most
deriving DecidableEq

/-- The operand of containment tests: the texts of list items, or the members of an object. An
empty pair of braces is both. -/
structure Collection where
  elements : Option (List Codes)
  members : Option Members

inductive Test where
  | equals (text : String)
  | differs (text : String)
  | compares (c : Comparison) (bound : Bound)
  | like (p : Pattern)
  | likeFolded (p : Pattern)
  | isNull
  | oneOf (texts : List Codes)
  | contains (operand : Collection)
  | containedBy (operand : Collection)
  | overlaps (operand : Collection)
  | search (terms : List Term)
  | agrees (members : Members)

structure Condition where
  column : String
  literal : String
  test : Test

inductive Filter where
  | condition (c : Condition)
  | negation (inner : Filter)
  | conjunction (parts : List Filter)
  | disjunction (parts : List Filter)

namespace Comparison

def holdsNumber : Comparison → Number → Number → Bool
  | above, a, b => b.lt a
  | least, a, b => b.le a
  | below, a, b => a.lt b
  | most, a, b => a.le b

def holdsInstant : Comparison → Instant → Instant → Bool
  | above, a, b => b.lt a
  | least, a, b => b.le a
  | below, a, b => a.lt b
  | most, a, b => a.le b

end Comparison

namespace Value

def instant? : Value → Option Instant
  | string s => Instant.readCodes? s
  | _ => none

/-- Numbers are themselves and strings may hold one; booleans do not count. -/
def number? : Value → Option Number
  | number n => some n
  | string s => s.chars?.bind Number.read?
  | _ => none

end Value

def Bound.holds (bound : Bound) (c : Comparison) (v : Value) : Bool :=
  match bound with
  | .instant i => v.instant?.elim false fun a => c.holdsInstant a i
  | .number n => v.number?.elim false fun a => c.holdsNumber a n

namespace Collection

def subset (texts others : List Codes) : Bool :=
  texts.all others.contains

/-- Whether every member of the first has an equal partner in the second. -/
def within (members others : Members) : Bool :=
  members.all fun (name, v) => (Entries.find? name others).elim false fun w => v.same w

def containedIn (c : Collection) (v : Value) : Bool :=
  match v, c.elements, c.members with
  | .array items, some texts, _ => subset texts (items.map Value.text)
  | .object members, _, some expected => within expected members
  | _, _, _ => false

def covers (c : Collection) (v : Value) : Bool :=
  match v, c.elements, c.members with
  | .array items, some texts, _ => subset (items.map Value.text) texts
  | .object members, _, some allowed => within members allowed
  | _, _, _ => false

def meets (c : Collection) (v : Value) : Bool :=
  match v, c.elements with
  | .array items, some texts => items.any fun item => texts.contains item.text
  | _, _ => false

end Collection

def Test.holds : Test → Value → Bool
  | equals text, v => v.text = text
  | differs text, v => v.text ≠ text
  | compares c bound, v => bound.holds c v
  | like p, v => !v.isNull && p.coversExactly v.text
  | likeFolded p, v => !v.isNull && p.coversFolded v.text
  | isNull, v => v.isNull
  | oneOf texts, v => texts.contains v.text
  | contains operand, v => operand.containedIn v
  | containedBy operand, v => operand.covers v
  | overlaps operand, v => operand.meets v
  | search terms, v =>
      match v with
      | .string s => terms.all (Term.foundIn (wordsOf s))
      | _ => false
  | agrees expected, v =>
      match v with
      | .object members => Collection.within expected members
      | _ => false

/-- A condition is false of a row that is no object. -/
def Condition.holds (c : Condition) (row : Value) : Except Fault Bool :=
  match row with
  | .object members => (resolveColumn members c.column).map c.test.holds
  | _ => .ok false

namespace Filter

mutual

def holds : Filter → Value → Except Fault Bool
  | condition c, row => c.holds row
  | negation inner, row => (holds inner row).map (!·)
  | conjunction parts, row => allHold parts row
  | disjunction parts, row => anyHolds parts row
termination_by structural f => f

/-- Parts behind the first that fails are not decided. -/
def allHold : List Filter → Value → Except Fault Bool
  | [], _ => .ok true
  | f :: rest, row =>
      match holds f row with
      | .ok true => allHold rest row
      | .ok false => .ok false
      | .error fault => .error fault
termination_by structural fs => fs

/-- Parts behind the first that holds are not decided. -/
def anyHolds : List Filter → Value → Except Fault Bool
  | [], _ => .ok false
  | f :: rest, row =>
      match holds f row with
      | .ok true => .ok true
      | .ok false => anyHolds rest row
      | .error fault => .error fault
termination_by structural fs => fs

end

def conjoin : List Filter → Option Filter
  | [] => none
  | [f] => some f
  | fs => some (conjunction fs)

end Filter

def selectRows (p : RowPredicate) : List Value → Except Fault (List Value)
  | [] => .ok []
  | row :: rest =>
      match p row with
      | .error fault => .error fault
      | .ok kept => (selectRows p rest).map fun rows => if kept then row :: rows else rows

end TableServer
