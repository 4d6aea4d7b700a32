import TableServer.Http.Coding.Checksum
import TableServer.Http.Coding.Deflate
import TableServer.Text.Blank
import TableServer.Text.Case
import TableServer.Text.Parts

/-! Codings of content. Compressed octets stand by themselves or in one of two frames, with a head
before them and checks behind. Content that ends too early gives what could be read. -/
namespace TableServer.Coding

open Deflate

/-- The octets that are read; none if they are wrong. What stands behind them is passed over. -/
def run (reader : Reader Unit) (octets : Text.Octets) : Option Text.Octets :=
  match reader.run { bits := bitsOf octets } with
  | .ok (_, s) => some s.octets.toList
  | .error (.early found) => some found.toList
  | .error .wrong => none

def readHighFirst : (count value : Nat) → Reader Nat
  | 0, value => pure value
  | count + 1, value => do readHighFirst count (256 * value + (← readNumber 8))

def short : Reader Unit := do
  let method ← readNumber 8
  let flags ← readNumber 8
  demand ((method * 256 + flags) % 31 = 0 && method % 16 = 8 && method / 16 ≤ 7 &&
    !flags.testBit 5)
  inflate
  let check ← readHighFirst 4 0
  demand (check = Checksum.sums (← get).octets.toList)

def skipText : (fuel : Nat) → Reader Unit
  | 0 => early
  | fuel + 1 => do if (← readNumber 8) ≠ 0 then skipText fuel

def skipTextIf (present : Bool) : Reader Unit := do
  if present then skipText ((← get).bits.length + 1)

/-- The checksum of the head so far, of which the lower half is told. -/
def checkHead (octets : Text.Octets) : Reader Unit := do
  let head := octets.take (octets.length - (← get).bits.length / 8)
  let check ← readNumber 16
  demand (check = Checksum.remainder head % 65536)

/-- The head of the long frame; its flags tell which parts it has. -/
def readHead (octets : Text.Octets) : Reader Unit := do
  demand ((← readNumber 16) = 0x8B1F)
  let method ← readNumber 8
  let flags ← readNumber 8
  demand (method = 8 && flags < 32)
  let _ ← readNumber 48
  if flags.testBit 2 then
    let count ← readNumber 16
    let _ ← readNumber (8 * count)
  skipTextIf (flags.testBit 3)
  skipTextIf (flags.testBit 4)
  if flags.testBit 1 then checkHead octets

/-- The frame with a head of ten octets or more before, and the checksum and the length behind. -/
def long (octets : Text.Octets) : Reader Unit := do
  readHead octets
  inflate
  let found := (← get).octets.toList
  demand ((← readNumber 32) = Checksum.remainder found)
  demand ((← readNumber 32) = found.length % 4294967296)

/-- Undoes the coding of a name; none if the content is wrong. A name that is not known has no
effect. -/
def undo (name : List Char) (content : Text.Octets) : Option Text.Octets :=
  if content.isEmpty then some content
  else
    match String.ofList name with
    | "gzip" => run (long content) content
    | "deflate" => (run short content).or (run inflate content)
    | _ => some content

/-- Undoes codings that are listed in the order in which they were applied. -/
def decode (codings : String) (content : Text.Octets) : Option Text.Octets :=
  let names := (Text.splitOn ',' codings.toList).map fun name => Text.lower (Text.trim name)
  names.reverse.foldlM (fun content name => undo name content) content

end TableServer.Coding
