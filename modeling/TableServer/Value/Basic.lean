import TableServer.Number.Basic
import TableServer.Entries
import TableServer.Text.Codes

/-! Stored values: JSON values whose objects keep the order of their members. -/
namespace TableServer

inductive Value where
  | null
  | bool (b : Bool)
  | number (n : Number)
  | string (s : Codes)
  | array (items : List Value)
  | object (members : List (Codes × Value))
deriving Inhabited

abbrev Members := List (Codes × Value)

namespace Value

inductive Kind where
  | null
  | boolean
  | number
  | string
  | sequence
  | mapping
deriving DecidableEq

def kind : Value → Kind
  | null => .null
  | bool _ => .boolean
  | number _ => .number
  | string _ => .string
  | array _ => .sequence
  | object _ => .mapping

def Kind.name : Kind → String
  | null => "null"
  | boolean => "boolean"
  | number => "number"
  | string => "string"
  | sequence => "sequence"
  | mapping => "mapping"

def ofInt (n : Int) : Value :=
  number (.integer n)

def isNull : Value → Bool
  | null => true
  | _ => false

def members? : Value → Option Members
  | object members => some members
  | _ => none

def isObject (v : Value) : Bool :=
  v.members?.isSome

mutual

def wellFormed : Value → Bool
  | string s => s.wellFormed
  | array items => allWellFormed items
  | object members => membersWellFormed members
  | null => true
  | bool _ => true
  | number _ => true
termination_by structural v => v

def allWellFormed : List Value → Bool
  | [] => true
  | v :: rest => wellFormed v && allWellFormed rest
termination_by structural vs => vs

def membersWellFormed : Members → Bool
  | [] => true
  | (k, v) :: rest => k.wellFormed && wellFormed v && membersWellFormed rest
termination_by structural ms => ms

end

def ofPairs (pairs : Members) : Value :=
  object (Entries.ofPairs pairs)

end Value

end TableServer
