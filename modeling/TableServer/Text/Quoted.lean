import TableServer.Text.Codes
import TableServer.Text.Printable

/-! Quoted texts in messages. Single quotes are used unless the text holds one and no double
quote; what cannot be shown is escaped by its code. -/
namespace TableServer.Text

def hexFigure (n : Nat) : Char :=
  if n < 10 then Char.ofNat (48 + n) else Char.ofNat (87 + n)

def hexFigures : (width : Nat) → Nat → List Char
  | 0, _ => []
  | width + 1, n => hexFigures width (n / 16) ++ [hexFigure (n % 16)]

def escapeHidden (c : CodePoint) : List Char :=
  if c.toNat < 0x100 then '\\' :: 'x' :: hexFigures 2 c.toNat
  else if c.toNat < 0x10000 then '\\' :: 'u' :: hexFigures 4 c.toNat
  else '\\' :: 'U' :: hexFigures 8 c.toNat

def escapeQuoted (mark c : Char) : List Char :=
  if c = mark ∨ c = '\\' then ['\\', c]
  else if c = '\n' then ['\\', 'n']
  else if c = '\r' then ['\\', 'r']
  else if c = '\t' then ['\\', 't']
  else if isPrintable c then [c]
  else escapeHidden c

/-- A surrogate cannot be shown. -/
def escapeCode (mark : Char) : CodePoint → List Char
  | .char c => escapeQuoted mark c
  | c => escapeHidden c

def quoteMark (text : Codes) : Char :=
  if .char '\'' ∈ text ∧ .char '"' ∉ text then '"' else '\''

def quotedChars (text : Codes) : List Char :=
  quoteMark text :: text.flatMap (escapeCode (quoteMark text)) ++ [quoteMark text]

def quoted (text : Codes) : String :=
  String.ofList (quotedChars text)

def escapeOctet (mark : Char) (b : UInt8) : List Char :=
  if 0x20 ≤ b ∧ b < 0x7F then escapeQuoted mark (Char.ofNat b.toNat)
  else if b = 9 ∨ b = 10 ∨ b = 13 then escapeQuoted mark (Char.ofNat b.toNat)
  else '\\' :: 'x' :: hexFigures 2 b.toNat

def quotedOctets (octets : List UInt8) : String :=
  let mark := quoteMark (octets.map fun b => .char (Char.ofNat b.toNat))
  String.ofList ('b' :: mark :: octets.flatMap (escapeOctet mark) ++ [mark])

end TableServer.Text
