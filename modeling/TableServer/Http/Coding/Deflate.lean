import TableServer.Text.Utf8

/-! Compressed octets: blocks of octets as they are, or of symbols in codes of bits. A symbol is an
octet, the end of the block, or the length of a copy, which the distance to the copied octets
follows. A code is told by the lengths of its words; of one length, they count up with the
symbols. -/
namespace TableServer.Deflate

structure Stream where
  bits : List Bool
  octets : Array UInt8 := #[]

/-- Why reading stops: the bits end too early, which leaves the octets so far, or they are wrong. -/
inductive Halt where
  | early (octets : Array UInt8)
  | wrong

abbrev Reader := StateT Stream (Except Halt)

/-- The bits of octets, the lowest first. -/
def bitsOf (octets : Text.Octets) : List Bool :=
  octets.flatMap fun b => (List.range 8).map b.toNat.testBit

def wrong {α : Type} : Reader α :=
  throw .wrong

def early {α : Type} : Reader α := do
  throw (.early (← get).octets)

def demand (condition : Bool) : Reader Unit :=
  if condition then pure () else wrong

def readBit : Reader Nat := do
  let s ← get
  match s.bits with
  | [] => early
  | b :: rest =>
      set { s with bits := rest }
      return b.toNat

def readNumber : (count : Nat) → Reader Nat
  | 0 => pure 0
  | count + 1 => do
      let b ← readBit
      return b + 2 * (← readNumber count)

def skipToOctet : Reader Unit :=
  modify fun s => { s with bits := s.bits.drop (s.bits.length % 8) }

def push (b : Nat) : Reader Unit :=
  modify fun s => { s with octets := s.octets.push (UInt8.ofNat b) }

/-- The number of words of each length from one on, and the symbols by length. -/
structure Code where
  counts : List Nat
  symbols : List Nat

namespace Code

def longest : Nat := 15

def ofLengths (lengths : List Nat) : Code :=
  let sizes := List.range' 1 longest
  ⟨sizes.map fun n => lengths.count n,
    sizes.flatMap fun n => (List.range lengths.length).filter fun i => lengths[i]? = some n⟩

/-- The words that a code leaves unused; none if it has too many. -/
def unused? (free : Nat) : List Nat → Option Nat
  | [] => some free
  | count :: rest => if 2 * free < count then none else unused? (2 * free - count) rest

def isComplete (c : Code) : Bool :=
  unused? 1 c.counts = some 0

/-- A code without words, or with one of a single bit, is admitted though it is not complete. -/
def isAdmissible (c : Code) : Bool :=
  c.isComplete || c.symbols.isEmpty || c.counts.take 1 = [1] && c.symbols.length = 1

/-- Reads a word bit by bit. `first` is the first word of its length, and the symbols are those of
words that are not shorter. -/
def readWord (word first : Nat) : List Nat → List Nat → Reader Nat
  | [], _ => wrong
  | count :: counts, symbols => do
      let word := 2 * word + (← readBit)
      if word < first + count then
        match symbols[word - first]? with
        | some symbol => return symbol
        | none => wrong
      else if counts.all (· = 0) then wrong
      else readWord word (2 * (first + count)) counts (symbols.drop count)

def read (c : Code) : Reader Nat :=
  readWord 0 0 c.counts c.symbols

end Code

/-- Least lengths of copies with the bits that are added to them, by symbol from 257 on. -/
def lengths : List (Nat × Nat) :=
  [(3, 0), (4, 0), (5, 0), (6, 0), (7, 0), (8, 0), (9, 0), (10, 0), (11, 1), (13, 1), (15, 1),
   (17, 1), (19, 2), (23, 2), (27, 2), (31, 2), (35, 3), (43, 3), (51, 3), (59, 3), (67, 4),
   (83, 4), (99, 4), (115, 4), (131, 5), (163, 5), (195, 5), (227, 5), (258, 0)]

def distances : List (Nat × Nat) :=
  [(1, 0), (2, 0), (3, 0), (4, 0), (5, 1), (7, 1), (9, 2), (13, 2), (17, 3), (25, 3), (33, 4),
   (49, 4), (65, 5), (97, 5), (129, 6), (193, 6), (257, 7), (385, 7), (513, 8), (769, 8),
   (1025, 9), (1537, 9), (2049, 10), (3073, 10), (4097, 11), (6145, 11), (8193, 12), (12289, 12),
   (16385, 13), (24577, 13)]

def readMeasure (table : List (Nat × Nat)) (symbol : Nat) : Reader Nat :=
  match table[symbol]? with
  | none => wrong
  | some (least, bits) => do return least + (← readNumber bits)

/-- Copies octets one by one, so that a copy may reach into itself. -/
def copy (length distance : Nat) (octets : Array UInt8) : Array UInt8 :=
  (List.range length).foldl (fun a _ => a.push (a.getD (a.size - distance) 0)) octets

def readCopy (distanceCode : Code) (symbol : Nat) : Reader Unit := do
  let length ← readMeasure lengths (symbol - 257)
  let distance ← readMeasure distances (← distanceCode.read)
  demand (distance ≤ (← get).octets.size)
  modify fun s => { s with octets := copy length distance s.octets }

/-- Reads symbols up to the end of a block; each takes a bit at least. -/
def readSymbols (code distanceCode : Code) : (fuel : Nat) → Reader Unit
  | 0 => early
  | fuel + 1 => do
      let symbol ← code.read
      if symbol < 256 then
        push symbol
        readSymbols code distanceCode fuel
      else if 256 < symbol then
        readCopy distanceCode symbol
        readSymbols code distanceCode fuel

def readCoded (code distanceCode : Code) : Reader Unit := do
  readSymbols code distanceCode ((← get).bits.length + 1)

def fixedCode : Code :=
  .ofLengths (List.replicate 144 8 ++ List.replicate 112 9 ++ List.replicate 24 7 ++
    List.replicate 8 8)

def fixedDistances : Code :=
  .ofLengths (List.replicate 32 5)

/-- Octets as they are, behind their number and the same number with all bits turned. -/
def readPlain : Reader Unit := do
  skipToOctet
  let count ← readNumber 16
  let check ← readNumber 16
  demand (count + check = 65535)
  (List.range count).forM fun _ => do push (← readNumber 8)

def lengthOrder : List Nat :=
  [16, 17, 18, 0, 8, 7, 9, 6, 10, 5, 11, 4, 12, 3, 13, 2, 14, 1, 15]

/-- The length that a symbol repeats, and how often: the last one, or zero. -/
def readRepeat (last : Option Nat) (symbol : Nat) : Reader (List Nat) :=
  if symbol < 16 then pure [symbol]
  else if symbol = 16 then
    match last with
    | none => wrong
    | some length => do return List.replicate (3 + (← readNumber 2)) length
  else if symbol = 17 then do return List.replicate (3 + (← readNumber 3)) 0
  else do return List.replicate (11 + (← readNumber 7)) 0

/-- Reads lengths until there are enough; `found` is reversed. -/
def readLengths (code : Code) (wanted : Nat) : (fuel : Nat) → List Nat → Reader (List Nat)
  | 0, _ => wrong
  | fuel + 1, found => do
      if found.length = wanted then return found.reverse
      let symbol ← code.read
      let more ← readRepeat found.head? symbol
      demand (found.length + more.length ≤ wanted)
      readLengths code wanted fuel (more ++ found)

def readLengthCode (count : Nat) : Reader Code := do
  let told ← (lengthOrder.take count).mapM fun place => do return (place, ← readNumber 3)
  return .ofLengths ((List.range 19).map fun place => (told.lookup place).getD 0)

def readOwnCodes : Reader Unit := do
  let codeSize := 257 + (← readNumber 5)
  let distanceSize := 1 + (← readNumber 5)
  let lengthCount := 4 + (← readNumber 4)
  demand (codeSize ≤ 286 && distanceSize ≤ 30)
  let lengthCode ← readLengthCode lengthCount
  demand lengthCode.isComplete
  let lengths ← readLengths lengthCode (codeSize + distanceSize) (codeSize + distanceSize + 1) []
  demand (lengths[256]? != some 0)
  let code := Code.ofLengths (lengths.take codeSize)
  let distanceCode := Code.ofLengths (lengths.drop codeSize)
  demand (code.isAdmissible && distanceCode.isAdmissible)
  readCoded code distanceCode

def readBlock (kind : Nat) : Reader Unit :=
  match kind with
  | 0 => readPlain
  | 1 => readCoded fixedCode fixedDistances
  | 2 => readOwnCodes
  | _ => wrong

/-- Reads blocks up to the last one; each takes a bit at least. -/
def readBlocks : (fuel : Nat) → Reader Unit
  | 0 => early
  | fuel + 1 => do
      let last ← readBit
      readBlock (← readNumber 2)
      if last = 0 then readBlocks fuel

def inflate : Reader Unit := do
  readBlocks ((← get).bits.length + 1)
  skipToOctet

end TableServer.Deflate
