import TableServer.Instant.Basic

/-! Written instants: the date and time in the instant's own offset, with six fraction digits
where there is a fraction. -/
namespace TableServer

def padded (width n : Nat) : String :=
  let ds := Nat.toDigits 10 n
  String.ofList (List.replicate (width - ds.length) '0' ++ ds)

namespace TimeOfDay

def fractionText (t : TimeOfDay) : String :=
  if t.micro = 0 then "" else "." ++ padded 6 t.micro

def text (t : TimeOfDay) : String :=
  padded 2 t.hour ++ ":" ++ padded 2 t.minute ++ ":" ++ padded 2 t.second ++ t.fractionText

end TimeOfDay

namespace Instant

/-- Seconds of an offset are written only where they are needed. -/
def offsetText (offset : Int) : String :=
  let n := offset.natAbs
  let seconds := n / 1000000
  let t : TimeOfDay := ⟨seconds / 3600, seconds / 60 % 60, seconds % 60, n % 1000000⟩
  (if offset < 0 then "-" else "+") ++ padded 2 t.hour ++ ":" ++ padded 2 t.minute ++
    (if t.second = 0 ∧ t.micro = 0 then "" else ":" ++ padded 2 t.second ++ t.fractionText)

def text (i : Instant) : String :=
  padded 4 i.date.year ++ "-" ++ padded 2 i.date.month ++ "-" ++ padded 2 i.date.day ++ "T" ++
    i.time.text ++ offsetText i.offset

end Instant

end TableServer
