import TableServer.Instant.Reader
import TableServer.Value.Printer

/-! Sort keys of values. Booleans come first, then numbers by size, dates by instant, other
strings by code points, and containers by their text. -/
namespace TableServer

inductive SortKey where
  | boolean (b : Bool)
  | number (n : Number)
  | instant (seconds : Double)
  | string (s : Codes)
  | container (text : Codes)
deriving DecidableEq

namespace SortKey

def ofString (s : Codes) : SortKey :=
  match Instant.readCodes? s with
  | some i => .instant i.timestamp
  | none => .string s

def ofValue : Value → SortKey
  | .bool b => .boolean b
  | .number n => .number n
  | .string s => ofString s
  | v => .container v.text

def rank : SortKey → Nat
  | boolean _ => 0
  | number _ => 1
  | instant _ => 2
  | string _ => 3
  | container _ => 4

def text : SortKey → Codes
  | boolean b => (Value.bool b).text
  | number n => n.text .plain
  | instant s => s.text .plain
  | string s => s
  | container t => t

/-- Whether the key compares with nothing. -/
def isNan : SortKey → Bool
  | number n => n.isNan
  | _ => false

def lt : SortKey → SortKey → Bool
  | boolean a, boolean b => !a && b
  | number a, number b => a.lt b
  | instant a, instant b => a.magnitude.lt b.magnitude
  | string a, string b => a < b
  | container a, container b => a < b
  | a, b => a.rank < b.rank

end SortKey

end TableServer
