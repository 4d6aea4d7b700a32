import TableServer.Text.Quoted
import TableServer.Text.Utf8

/-! Percent escapes: a percent sign and two hexadecimal figures spell an octet of UTF-8. What is no
escape stands for itself. -/
namespace TableServer.Escape

def hexValue? (b : UInt8) : Option UInt8 :=
  if 48 ≤ b && b ≤ 57 then some (b - 48)
  else if 65 ≤ b && b ≤ 70 then some (b - 55)
  else if 97 ≤ b && b ≤ 102 then some (b - 87)
  else none

def octet? (a b : UInt8) : Option UInt8 :=
  match hexValue? a, hexValue? b with
  | some a, some b => some (a * 16 + b)
  | _, _ => none

def octets : Text.Octets → Text.Octets
  | 37 :: a :: b :: rest =>
      match octet? a b with
      | some octet => octet :: octets rest
      | none => 37 :: octets (a :: b :: rest)
  | octet :: rest => octet :: octets rest
  | [] => []

def decode (text : List Char) : String :=
  String.ofList (Text.lenient (Text.Utf8.events (octets (Text.encodeUtf8 (String.ofList text)))))

/-- A name or a text in a query, in which a plus sign stands for a space. -/
def decodeForm (text : List Char) : String :=
  decode (text.map fun c => if c = '+' then ' ' else c)

def encodeOctet (b : UInt8) : List Char :=
  '%' :: (Text.hexFigures 2 b.toNat).map Char.toUpper

def encode (isSafe : Char → Bool) (text : List Char) : List Char :=
  text.flatMap fun c =>
    if isSafe c then [c] else (Text.encodeUtf8 (String.singleton c)).flatMap encodeOctet

end TableServer.Escape
