import TableServer.Text.Utf8

/-! Checksums of octets: a remainder by a polynomial, and two sums. -/
namespace TableServer.Checksum

def reduceBit (r : UInt32) : UInt32 :=
  if r &&& 1 = 1 then (r >>> 1) ^^^ 0xEDB88320 else r >>> 1

def reduceOctet (r : UInt32) (b : UInt8) : UInt32 :=
  (List.range 8).foldl (fun r _ => reduceBit r) (r ^^^ b.toUInt32)

def remainder (octets : Text.Octets) : Nat :=
  (octets.foldl reduceOctet 0xFFFFFFFF ^^^ 0xFFFFFFFF).toNat

/-- The largest prime number below 2 to the 16. -/
def sumModulus : Nat := 65521

/-- The sum of octets and the sum of these sums, which is the upper half. -/
def sums (octets : Text.Octets) : Nat :=
  let (low, high) := octets.foldl (fun (low, high) b =>
    let low := (low + b.toNat) % sumModulus
    (low, (high + low) % sumModulus)) (1, 0)
  high * 65536 + low

end TableServer.Checksum
