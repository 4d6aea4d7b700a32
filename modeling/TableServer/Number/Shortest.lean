import TableServer.Number.Double

/-! Shortest decimal digits. Among the decimals that round to a given double the ones with fewest
digits are taken, and of these the nearest to it; a tie goes to the even digit. -/
namespace TableServer

/-- A positive decimal `digits * 10 ^ exponent`. -/
structure Decimal where
  digits : Nat
  exponent : Int
deriving DecidableEq

namespace Decimal

/-- The decimals that round to one double, written over a common denominator: they lie between
`low / den` and `high / den`, and the ends belong to them when `closed`. -/
structure Interval where
  low : Nat
  value : Nat
  high : Nat
  den : Nat
  closed : Bool

/-- The numbers that round to `mantissa * 2 ^ exponent`. Below a power of two the next number is
nearer than above it, unless the exponent is least. -/
def Interval.around (mantissa : Nat) (exponent : Int) : Interval :=
  let e := exponent - 2
  let up := Nat.pow 2 e.toNat
  let gap := if mantissa = Nat.pow 2 52 ∧ exponent ≠ Double.leastExponent then 1 else 2
  { low := (4 * mantissa - gap) * up
    value := 4 * mantissa * up
    high := (4 * mantissa + 2) * up
    den := Nat.pow 2 (-e).toNat
    closed := mantissa % 2 = 0 }

def Interval.holds (i : Interval) (d : Decimal) : Bool :=
  let n := d.digits * Nat.pow 10 d.exponent.toNat * i.den
  let s := Nat.pow 10 (-d.exponent).toNat
  if i.closed then i.low * s ≤ n && n ≤ i.high * s else i.low * s < n && n < i.high * s

def floorLog10 (num den : Nat) : Int :=
  let below := Int.fdiv ((Double.floorLog2 num den) * 30103) 100000 - 1
  let reached (k : Int) : Bool := den * Nat.pow 10 k.toNat ≤ num * Nat.pow 10 (-k).toNat
  if reached (below + 2) then below + 2
  else if reached (below + 1) then below + 1
  else below

/-- The nearer of the two decimals with the given exponent around the value, if one of them lies
in the interval. -/
def Interval.nearest? (i : Interval) (exponent : Int) : Option Decimal :=
  let num := i.value * Nat.pow 10 (-exponent).toNat
  let den := i.den * Nat.pow 10 exponent.toNat
  let q := num / den
  let r := num % den
  let lower : Decimal := ⟨q, exponent⟩
  let upper : Decimal := ⟨q + 1, exponent⟩
  let first := 2 * r < den || (2 * r == den && q % 2 == 0)
  let (a, b) := if first then (lower, upper) else (upper, lower)
  if i.holds a then some a else if i.holds b then some b else none

/-- Tries `count`, `count + 1`, … digits, at most `fuel` times. -/
def Interval.search (i : Interval) (top : Int) (count : Nat) : Nat → Decimal
  | 0 => ⟨i.value / i.den, 0⟩
  | fuel + 1 =>
      match i.nearest? (top + 1 - count) with
      | some d => d
      | none => search i top (count + 1) fuel

def strip (d : Decimal) : Nat → Decimal
  | 0 => d
  | fuel + 1 =>
      if d.digits % 10 = 0 ∧ d.digits ≠ 0 then strip ⟨d.digits / 10, d.exponent + 1⟩ fuel else d

/-- The shortest decimal that rounds to the positive number `mantissa * 2 ^ exponent`. Seventeen
digits always suffice. -/
def shortest (mantissa : Nat) (exponent : Int) : Decimal :=
  let i := Interval.around mantissa exponent
  (i.search (floorLog10 i.value i.den) 1 17).strip 18

end Decimal

end TableServer
