import TableServer.Value.Basic

/-! Loose equality of values. A boolean equals the number one or zero, integers and doubles are
compared exactly, and the order of members does not count. The value that is not a number differs
from itself, yet two containers that hold it at the same place are equal there. -/
namespace TableServer.Value

/-- The number that a number or a boolean counts as. -/
def asNumber? : Value → Option Number
  | bool b => some (.integer (if b then 1 else 0))
  | number n => some n
  | _ => none

def bothNan : Value → Value → Bool
  | number a, number b => a.isNan && b.isNan
  | _, _ => false

def sameNumber (a b : Value) : Bool :=
  match a.asNumber?, b.asNumber? with
  | some x, some y => x.same y
  | _, _ => false

mutual

def same : Value → Value → Bool
  | null, b => b.isNull
  | bool a, b => sameNumber (bool a) b
  | number a, b => sameNumber (number a) b
  | string a, b => match b with
    | string t => a = t
    | _ => false
  | array a, b => match b with
    | array items => sameItems a items
    | _ => false
  | object a, b => match b with
    | object members => a.length = members.length && sameMembers a members
    | _ => false
termination_by structural a => a

def sameItems : List Value → List Value → Bool
  | [], [] => true
  | a :: as, b :: bs => (bothNan a b || same a b) && sameItems as bs
  | _, _ => false
termination_by structural as => as

/-- Every member of the first has an equal partner of its name in the second. -/
def sameMembers : Members → Members → Bool
  | [], _ => true
  | (k, a) :: rest, members =>
      (match Entries.find? k members with
        | some b => bothNan a b || same a b
        | none => false) && sameMembers rest members
termination_by structural ms => ms

end

end TableServer.Value
