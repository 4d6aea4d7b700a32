import TableServer.Number.Basic
import TableServer.Text.Blank
import TableServer.Text.Digit

/-! Numbers read from free text: decimal digits of every script, single underscores between
digits, a sign, and surrounding blanks. -/
namespace TableServer

inductive IntegerFault where
  | notInteger
  | tooLong (digits : Nat)
deriving DecidableEq

namespace Number

def digitLimit : Nat := 4300

/-- The information separators are no blanks around a number. -/
def isBlankAround (c : Char) : Bool :=
  Text.isBlank c && !(0x1c ≤ c.toNat && c.toNat ≤ 0x1f)

def splitSign : List Char → Bool × List Char
  | '-' :: rest => (true, rest)
  | '+' :: rest => (false, rest)
  | text => (false, text)

/-- The leading digits and what follows them. Fails where `open` says that a digit has to follow:
at the start and after an underscore. -/
def scanDigits (due : Bool) : List Char → Option (List Nat × List Char)
  | [] => if due then none else some ([], [])
  | c :: rest =>
      match Text.decimalValue? c with
      | some d => (scanDigits false rest).map fun (ds, tail) => (d :: ds, tail)
      | none =>
          if due then none
          else if c = '_' then scanDigits true rest
          else some ([], c :: rest)

def ofDigits (ds : List Nat) : Nat :=
  ds.foldl (fun n d => 10 * n + d) 0

def signed (negative : Bool) (n : Nat) : Int :=
  if negative then -(n : Int) else n

/-- Reads an integer. The digit limit is noticed before anything that follows the digits. -/
def readInteger (text : List Char) : Except IntegerFault Int :=
  let (negative, body) := splitSign (Text.trimWhere isBlankAround text)
  match scanDigits true body with
  | none => .error .notInteger
  | some (ds, rest) =>
      if digitLimit < ds.length then .error (.tooLong ds.length)
      else if rest.isEmpty then .ok (signed negative (ofDigits ds))
      else .error .notInteger

def asciiDigit (c : Char) : Char :=
  match Text.decimalValue? c with
  | some d => Char.ofNat (48 + d)
  | none => c

/-- Removes underscores, each of which has to stand between two digits. -/
def dropUnderscores (afterDigit : Bool) : List Char → Option (List Char)
  | [] => some []
  | c :: rest =>
      if c = '_' then
        match rest with
        | next :: _ => if afterDigit && next.isDigit then dropUnderscores false rest else none
        | [] => none
      else (dropUnderscores c.isDigit rest).map (c :: ·)

def digitValues (ds : List Char) : List Nat :=
  ds.map fun c => c.toNat - 48

/-- The exponent after a mantissa; nothing else may follow it. -/
def readExponent? : List Char → Option Int
  | [] => some 0
  | c :: rest =>
      if c = 'e' ∨ c = 'E' then
        let (negative, ds) := splitSign rest
        if ds.isEmpty || !ds.all Char.isDigit then none
        else some (signed negative (ofDigits (digitValues ds)))
      else none

def readUnsigned? (negative : Bool) (text : List Char) : Option Double :=
  let whole := text.takeWhile Char.isDigit
  let rest := text.dropWhile Char.isDigit
  let (fraction, rest) :=
    match rest with
    | '.' :: tail => (tail.takeWhile Char.isDigit, tail.dropWhile Char.isDigit)
    | _ => ([], rest)
  if whole.isEmpty && fraction.isEmpty then none
  else (readExponent? rest).map fun e =>
    Double.ofDecimal negative (ofDigits (digitValues (whole ++ fraction)))
      (e - fraction.length)

def readDouble? (text : List Char) : Option Double := do
  let plain ← dropUnderscores false ((Text.trimWhere isBlankAround text).map asciiDigit)
  let (negative, body) := splitSign plain
  let d ← readUnsigned? negative body
  if d.isFinite then some d else none

def read? (text : List Char) : Option Number :=
  match readInteger text with
  | .ok n => some (.integer n)
  | .error _ => (readDouble? text).map .double

end Number

end TableServer
