/-! Octets and texts. Decoding yields an event for every character and for every ill-formed
sequence; a strict decoder stops at the first ill-formed one, a lenient one replaces each. -/
namespace TableServer.Text

abbrev Octets := List UInt8

def encodeUtf8 (text : String) : Octets :=
  text.toUTF8.toList

structure DecodeFault where
  codec : String
  reason : String
  octet : UInt8
  first : Nat
  last : Nat
deriving DecidableEq

def hexPair (b : UInt8) : String :=
  let digit (n : Nat) : Char := if n < 10 then Char.ofNat (48 + n) else Char.ofNat (87 + n)
  String.ofList [digit (b.toNat / 16), digit (b.toNat % 16)]

def DecodeFault.message (f : DecodeFault) : String :=
  if f.first = f.last then
    s!"'{f.codec}' codec can't decode byte 0x{hexPair f.octet} in position {f.first}: {f.reason}"
  else
    s!"'{f.codec}' codec can't decode bytes in position {f.first}-{f.last}: {f.reason}"

inductive DecodeEvent where
  | char (c : Char)
  | fault (f : DecodeFault)

namespace Utf8

/-- A character of which `need` octets are still due, the next one from `low` to `high`. -/
structure Pending where
  start : Nat
  lead : UInt8
  code : Nat
  need : Nat
  low : Nat
  high : Nat

def fault (reason : String) (lead : UInt8) (first last : Nat) : DecodeEvent :=
  .fault ⟨"utf-8", reason, lead, first, last⟩

def begin (position : Nat) (b : UInt8) : Except DecodeEvent (Char ⊕ Pending) :=
  let n := b.toNat
  if n < 0x80 then .ok (.inl (Char.ofNat n))
  else if n < 0xC2 then .error (fault "invalid start byte" b position position)
  else if n < 0xE0 then .ok (.inr ⟨position, b, n - 0xC0, 1, 0x80, 0xBF⟩)
  else if n = 0xE0 then .ok (.inr ⟨position, b, 0, 2, 0xA0, 0xBF⟩)
  else if n = 0xED then .ok (.inr ⟨position, b, 0xD, 2, 0x80, 0x9F⟩)
  else if n < 0xF0 then .ok (.inr ⟨position, b, n - 0xE0, 2, 0x80, 0xBF⟩)
  else if n = 0xF0 then .ok (.inr ⟨position, b, 0, 3, 0x90, 0xBF⟩)
  else if n < 0xF4 then .ok (.inr ⟨position, b, n - 0xF0, 3, 0x80, 0xBF⟩)
  else if n = 0xF4 then .ok (.inr ⟨position, b, 4, 3, 0x80, 0x8F⟩)
  else .error (fault "invalid start byte" b position position)

/-- One octet: the events it completes and the character it leaves unfinished. -/
def step (position : Nat) (pending : Option Pending) (b : UInt8) :
    List DecodeEvent × Option Pending :=
  let fresh : List DecodeEvent × Option Pending :=
    match begin position b with
    | .ok (.inl c) => ([.char c], none)
    | .ok (.inr p) => ([], some p)
    | .error e => ([e], none)
  match pending with
  | none => fresh
  | some p =>
      if p.low ≤ b.toNat ∧ b.toNat ≤ p.high then
        let code := p.code * 64 + (b.toNat - 0x80)
        if p.need = 1 then ([.char (Char.ofNat code)], none)
        else ([], some { p with code := code, need := p.need - 1, low := 0x80, high := 0xBF })
      else
        (fault "invalid continuation byte" p.lead p.start (position - 1) :: fresh.1, fresh.2)

def eventsFrom (position : Nat) (pending : Option Pending) : Octets → List DecodeEvent
  | [] =>
      match pending with
      | none => []
      | some p => [fault "unexpected end of data" p.lead p.start (position - 1)]
  | b :: rest =>
      (step position pending b).1 ++ eventsFrom (position + 1) (step position pending b).2 rest

def events (octets : Octets) : List DecodeEvent :=
  eventsFrom 0 none octets

end Utf8

def strict : List DecodeEvent → Except DecodeFault (List Char)
  | [] => .ok []
  | .char c :: rest => (strict rest).map (c :: ·)
  | .fault f :: _ => .error f

/-- The characters, with a replacement character for every fault. -/
def lenient (events : List DecodeEvent) : List Char :=
  events.map fun
    | .char c => c
    | .fault _ => '\uFFFD'

end TableServer.Text
