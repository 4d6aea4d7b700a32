import TableServer.Number.Double

/-! Numbers of stored values: unbounded integers and doubles. Both compare by their exact values;
a value that is not a number compares with nothing. -/
namespace TableServer

inductive Number where
  | integer (n : Int)
  | double (d : Double)
deriving DecidableEq

/-- Exact value of a number, with the two infinities. -/
inductive Magnitude where
  | undefined
  | bottom
  | exact (q : Rat)
  | top
deriving DecidableEq

namespace Magnitude

def lt : Magnitude → Magnitude → Bool
  | undefined, _ => false
  | _, undefined => false
  | bottom, bottom => false
  | bottom, _ => true
  | exact _, bottom => false
  | exact a, exact b => decide (a < b)
  | exact _, top => true
  | top, _ => false

def same : Magnitude → Magnitude → Bool
  | undefined, _ => false
  | bottom, bottom => true
  | exact a, exact b => decide (a = b)
  | top, top => true
  | _, _ => false

end Magnitude

namespace Double

def magnitude : Double → Magnitude
  | nan => .undefined
  | infinite true => .bottom
  | infinite false => .top
  | finite negative m e => .exact (ratio negative m e)

end Double

namespace Number

def magnitude : Number → Magnitude
  | integer n => .exact n
  | double d => d.magnitude

def isNan : Number → Bool
  | integer _ => false
  | double d => d.isNan

def lt (a b : Number) : Bool :=
  a.magnitude.lt b.magnitude

def same (a b : Number) : Bool :=
  a.magnitude.same b.magnitude

def le (a b : Number) : Bool :=
  a.lt b || a.same b

end Number

end TableServer
