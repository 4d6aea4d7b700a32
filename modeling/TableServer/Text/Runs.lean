/-! Properties of characters, kept as increasing runs of code points. -/
namespace TableServer.Text

/-- Closed intervals of code points in increasing order. -/
abbrev Runs := List (Nat × Nat)

def Runs.placeOf? : Runs → Nat → Option Nat
  | [], _ => none
  | (first, last) :: rest, code =>
      if code < first then none
      else if code ≤ last then some (code - first)
      else placeOf? rest code

def Runs.place? (runs : Runs) (c : Char) : Option Nat :=
  runs.placeOf? c.toNat

def Runs.holds (runs : Runs) (c : Char) : Bool :=
  (runs.place? c).isSome

def findRun? {α : Type} (code : Nat) : List (Nat × Nat × α) → Option α
  | [] => none
  | (first, last, value) :: rest =>
      if code < first then none
      else if code ≤ last then some value
      else findRun? code rest

/-- Every `step`-th code point from `first` to `last` moves by `delta`. -/
structure Shift where
  first : Nat
  last : Nat
  step : Nat
  delta : Int

abbrev Shifts := List Shift

/-- Where a code point moves; itself when no shift holds it. -/
def Shifts.applyTo : Shifts → Nat → Nat
  | [], code => code
  | s :: rest, code =>
      if code < s.first then code
      else if code ≤ s.last then
        if (code - s.first) % s.step = 0 then (code + s.delta).toNat else applyTo rest code
      else applyTo rest code

def Shifts.apply (shifts : Shifts) (c : Char) : Char :=
  Char.ofNat (shifts.applyTo c.toNat)

end TableServer.Text
