import TableServer.Text.Codes
import TableServer.Text.Utf8

/-! Encodings of octets that hold JSON. The encoding is told by the byte order mark or by where
the zero octets stand. -/
namespace TableServer.Text

inductive Encoding where
  | utf8
  | utf16 (bigEndian : Bool)
  | utf32 (bigEndian : Bool)
deriving DecidableEq

def detect : Octets → Encoding × Nat
  | 0x00 :: 0x00 :: 0xFE :: 0xFF :: _ => (.utf32 true, 4)
  | 0xFF :: 0xFE :: 0x00 :: 0x00 :: _ => (.utf32 false, 4)
  | 0xFE :: 0xFF :: _ => (.utf16 true, 2)
  | 0xFF :: 0xFE :: _ => (.utf16 false, 2)
  | 0xEF :: 0xBB :: 0xBF :: _ => (.utf8, 3)
  | a :: b :: c :: d :: _ =>
      if a = 0 then (if b = 0 then .utf32 true else .utf16 true, 0)
      else if b = 0 then (if c = 0 ∧ d = 0 then .utf32 false else .utf16 false, 0)
      else (.utf8, 0)
  | [a, b] =>
      if a = 0 then (.utf16 true, 0)
      else if b = 0 then (.utf16 false, 0)
      else (.utf8, 0)
  | _ => (.utf8, 0)

namespace Utf16

def unit (bigEndian : Bool) (a b : UInt8) : Nat :=
  if bigEndian then a.toNat * 256 + b.toNat else b.toNat * 256 + a.toNat

/-- Units of two octets; an odd octet at the end is a fault. -/
def units (bigEndian : Bool) (position : Nat) : Octets → Except DecodeFault (List Nat)
  | a :: b :: rest => (units bigEndian (position + 2) rest).map (unit bigEndian a b :: ·)
  | [a] =>
      .error
        ⟨if bigEndian then "utf-16-be" else "utf-16-le", "truncated data", a, position, position⟩
  | [] => .ok []

/-- Joins pairs of surrogates; one without its partner stays. -/
def join : List Nat → Codes
  | [] => []
  | [n] => [.ofNat n]
  | n :: m :: rest =>
      if 0xD800 ≤ n ∧ n < 0xDC00 ∧ 0xDC00 ≤ m ∧ m < 0xE000 then
        .char (Char.ofNat (0x10000 + (n - 0xD800) * 0x400 + (m - 0xDC00))) :: join rest
      else .ofNat n :: join (m :: rest)

end Utf16

namespace Utf32

def codec (bigEndian : Bool) : String :=
  if bigEndian then "utf-32-be" else "utf-32-le"

def unit (bigEndian : Bool) (a b c d : UInt8) : Nat :=
  let (a, b, c, d) := if bigEndian then (a, b, c, d) else (d, c, b, a)
  ((a.toNat * 256 + b.toNat) * 256 + c.toNat) * 256 + d.toNat

def decode (bigEndian : Bool) (position : Nat) : Octets → Except DecodeFault Codes
  | a :: b :: c :: d :: rest =>
      let n := unit bigEndian a b c d
      if n < 0x110000 then (decode bigEndian (position + 4) rest).map (.ofNat n :: ·)
      else .error ⟨codec bigEndian, "code point not in range(0x110000)", a, position, position + 3⟩
  | [] => .ok []
  | a :: rest =>
      .error ⟨codec bigEndian, "truncated data", a, position, position + rest.length⟩

end Utf32

namespace Utf8

def surrogateAt? : Octets → Option (Fin 0x800)
  | a :: b :: c :: _ =>
      if a = 0xED ∧ 0xA0 ≤ b ∧ b ≤ 0xBF ∧ 0x80 ≤ c ∧ c ≤ 0xBF then
        some (Fin.ofNat 0x800 ((b.toNat - 0xA0) * 64 + (c.toNat - 0x80)))
      else none
  | _ => none

/-- Puts the replacement character, which has as many octets, in the place of encoded
surrogates. -/
def maskSurrogates : Octets → Octets
  | a :: b :: c :: rest =>
      if (surrogateAt? (a :: b :: c :: rest)).isSome then
        0xEF :: 0xBF :: 0xBD :: maskSurrogates rest
      else a :: maskSurrogates (b :: c :: rest)
  | rest => rest

/-- Puts the encoded surrogates back into the characters that are decoded without them. -/
def unmask : List Char → Octets → Codes
  | [], _ => []
  | c :: text, octets =>
      (match surrogateAt? octets with
        | some place => .surrogate place
        | none => .char c) :: unmask text (octets.drop c.utf8Size)

def decode (octets : Octets) : Except DecodeFault Codes :=
  (strict (events (maskSurrogates octets))).map fun text => unmask text octets

end Utf8

/-- Decodes octets in the encoding that they show. Surrogates are let through. Positions count from
the start, except that those of UTF-8 count from behind the byte order mark. -/
def decodeDetected (octets : Octets) : Except DecodeFault Codes :=
  let (encoding, mark) := detect octets
  let body := octets.drop mark
  match encoding with
  | .utf8 => Utf8.decode body
  | .utf16 bigEndian => (Utf16.units bigEndian mark body).map Utf16.join
  | .utf32 bigEndian => Utf32.decode bigEndian mark body

end TableServer.Text
