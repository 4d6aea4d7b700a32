/-! Binary floating-point numbers with 53 bits of precision, kept exactly. A quotient or a decimal
is rounded to the nearest number, a half to the even neighbour. -/
namespace TableServer

/-- A finite number is `± mantissa * 2 ^ exponent`. Rounding yields a mantissa below `2 ^ 53` with
an exponent of at least `-1074`, and the mantissa fills 53 bits unless the exponent is least. -/
inductive Double where
  | nan
  | infinite (negative : Bool)
  | finite (negative : Bool) (mantissa : Nat) (exponent : Int)
deriving DecidableEq

namespace Double

def leastExponent : Int := -1074

def greatestExponent : Int := 971

def zero (negative : Bool) : Double :=
  .finite negative 0 leastExponent

/-- The nearest natural number to `num / den`, a half going to the even neighbour. -/
def roundQuotient (num den : Nat) : Nat :=
  let q := num / den
  let r := num % den
  if 2 * r < den then q
  else if den < 2 * r then q + 1
  else q + q % 2

def floorLog2 (num den : Nat) : Int :=
  let k : Int := (num.log2 : Int) - den.log2
  let reached : Bool :=
    if 0 ≤ k then den * Nat.pow 2 k.toNat ≤ num else den ≤ num * Nat.pow 2 (-k).toNat
  if reached then k else k - 1

/-- A number from a rounded mantissa, which may have reached `2 ^ 53`. -/
def assemble (negative : Bool) (mantissa : Nat) (exponent : Int) : Double :=
  let (m, e) :=
    if mantissa = Nat.pow 2 53 then (Nat.pow 2 52, exponent + 1) else (mantissa, exponent)
  if greatestExponent < e then .infinite negative else .finite negative m e

def ofQuotient (negative : Bool) (num den : Nat) : Double :=
  if num = 0 then zero negative
  else
    let e := max leastExponent (floorLog2 num den - 52)
    let m :=
      if 0 ≤ e then roundQuotient num (den * Nat.pow 2 e.toNat)
      else roundQuotient (num * Nat.pow 2 (-e).toNat) den
    assemble negative m e

def ofIntQuotient (num : Int) (den : Nat) : Double :=
  ofQuotient (num < 0) num.natAbs den

/-- A lower bound of the decimal logarithm of a positive number, at most one below its floor. -/
def decimalScale (n : Nat) : Int :=
  n.log2 * 30103 / 100000

/-- The number nearest to `± digits * 10 ^ exponent`. Values far outside the range are settled by
their scale alone. -/
def ofDecimal (negative : Bool) (digits : Nat) (exponent : Int) : Double :=
  if digits = 0 then zero negative
  else
    let scale := exponent + decimalScale digits
    if 310 < scale then .infinite negative
    else if scale < -330 then zero negative
    else if 0 ≤ exponent then ofQuotient negative (digits * Nat.pow 10 exponent.toNat) 1
    else ofQuotient negative digits (Nat.pow 10 (-exponent).toNat)

def ratio (negative : Bool) (mantissa : Nat) (exponent : Int) : Rat :=
  let size : Rat :=
    if 0 ≤ exponent then ((mantissa * Nat.pow 2 exponent.toNat : Nat) : Rat)
    else mkRat mantissa (Nat.pow 2 (-exponent).toNat)
  if negative then -size else size

def isNan : Double → Bool
  | nan => true
  | _ => false

def isFinite : Double → Bool
  | finite .. => true
  | _ => false

end Double

end TableServer
