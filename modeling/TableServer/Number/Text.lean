import TableServer.Number.Basic
import TableServer.Number.Shortest

/-! Written numbers. A double is written with the shortest digits that read back, always with a
fraction or an exponent. -/
namespace TableServer

structure NumberNames where
  nan : String
  infinity : String

def NumberNames.plain : NumberNames := ⟨"nan", "inf"⟩

def NumberNames.json : NumberNames := ⟨"NaN", "Infinity"⟩

def digitsOf (n : Nat) : List Char :=
  Nat.toDigits 10 n

def Decimal.zeros (n : Int) : List Char :=
  List.replicate n.toNat '0'

/-- Exponents have a sign and at least two digits. -/
def Decimal.exponentText (e : Int) : List Char :=
  let ds := digitsOf e.natAbs
  (if e < 0 then '-' else '+') :: (if ds.length < 2 then '0' :: ds else ds)

/-- Positional for decimal exponents from -4 to 15, otherwise with one digit before the point. -/
def Decimal.text (d : Decimal) : List Char :=
  let ds := digitsOf d.digits
  let e := d.exponent + ds.length - 1
  if e < -4 ∨ 16 ≤ e then
    match ds with
    | [only] => only :: 'e' :: exponentText e
    | first :: rest => first :: '.' :: rest ++ 'e' :: exponentText e
    | [] => []
  else if 0 ≤ d.exponent then
    ds ++ zeros d.exponent ++ ['.', '0']
  else if 0 ≤ e then
    ds.take (e + 1).toNat ++ '.' :: ds.drop (e + 1).toNat
  else
    '0' :: '.' :: zeros (-e - 1) ++ ds

def Double.text (names : NumberNames) : Double → String
  | nan => names.nan
  | infinite negative => (if negative then "-" else "") ++ names.infinity
  | finite negative m e =>
      (if negative then "-" else "") ++
        (if m = 0 then "0.0" else String.ofList (Decimal.shortest m e).text)

def Number.text (names : NumberNames) : Number → String
  | integer n => toString n
  | double d => d.text names

end TableServer
