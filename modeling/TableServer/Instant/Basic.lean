import TableServer.Number.Double

/-! Instants: a date and a time of day in the proleptic Gregorian calendar, with an offset from
universal time. Instants are compared by the microseconds since 1970 in universal time. -/
namespace TableServer

structure Date where
  year : Nat
  month : Nat
  day : Nat
deriving DecidableEq

structure TimeOfDay where
  hour : Nat
  minute : Nat
  second : Nat
  micro : Nat
deriving DecidableEq

/-- The offset counts microseconds and is positive east of the zero meridian. -/
structure Instant where
  date : Date
  time : TimeOfDay
  offset : Int
deriving DecidableEq

namespace Date

def isLeap (year : Nat) : Bool :=
  year % 4 = 0 && (year % 100 ≠ 0 || year % 400 = 0)

def monthLength (year : Nat) : Nat → Nat
  | 2 => if isLeap year then 29 else 28
  | 4 => 30
  | 6 => 30
  | 9 => 30
  | 11 => 30
  | _ => 31

def daysBeforeMonth (year : Nat) : Nat → Nat
  | 0 => 0
  | 1 => 0
  | month + 1 => daysBeforeMonth year month + monthLength year month

/-- Days of the years before the given one, from year 1 on. -/
def daysBeforeYear (year : Nat) : Nat :=
  let y := year - 1
  y * 365 + y / 4 - y / 100 + y / 400

def epochDay (d : Date) : Int :=
  (daysBeforeYear d.year + daysBeforeMonth d.year d.month + d.day : Nat) - 719163

def valid (d : Date) : Bool :=
  1 ≤ d.year && 1 ≤ d.month && d.month ≤ 12 && 1 ≤ d.day && d.day ≤ monthLength d.year d.month

end Date

namespace TimeOfDay

def midnight : TimeOfDay := ⟨0, 0, 0, 0⟩

def micros (t : TimeOfDay) : Nat :=
  ((t.hour * 60 + t.minute) * 60 + t.second) * 1000000 + t.micro

def valid (t : TimeOfDay) : Bool :=
  t.hour < 24 && t.minute < 60 && t.second < 60

end TimeOfDay

namespace Instant

def dayMicros : Int := 86400000000

def epochMicros (i : Instant) : Int :=
  i.date.epochDay * dayMicros + i.time.micros - i.offset

/-- Seconds since 1970, rounded to a double. -/
def timestamp (i : Instant) : Double :=
  Double.ofIntQuotient i.epochMicros 1000000

def lt (a b : Instant) : Bool :=
  a.epochMicros < b.epochMicros

def le (a b : Instant) : Bool :=
  a.epochMicros ≤ b.epochMicros

end Instant

end TableServer
