import TableServer.Instant.Basic
import TableServer.Text.Blank
import TableServer.Text.Codes

/-! Instants read from text: a date, then perhaps any one character, a time of day and an offset.
Offsets may be written in full, without their colon, by their hours alone, or as `Z`. A text
without offset is taken in universal time. -/
namespace TableServer.Instant

def digits? (text : List Char) : Option Nat :=
  if text.all Char.isDigit then some (text.foldl (fun n c => 10 * n + (c.toNat - 48)) 0) else none

/-- A text ends where it has no more characters, and at a null character. -/
def ended : List Char → Bool
  | [] => true
  | c :: _ => c = '\x00'

/-- A time of day as it is written; `more` says that the text did not end behind it. -/
structure Clock where
  fields : List Nat
  micro : Nat
  more : Bool

/-- The fraction takes at most six of the `size` characters; further digits are dropped. -/
def readFraction? (fields : List Nat) (text : List Char) (size : Nat) : Option Clock :=
  let count := min 6 size
  (digits? (text.take count)).map fun n =>
    ⟨fields, n * Nat.pow 10 (6 - count), !ended ((text.drop count).dropWhile Char.isDigit)⟩

/-- Up to `left` fields of two digits, then a fraction. A colon after the first field says that
colons separate the others. The clock takes `size` characters of the text. -/
def readFields? (separated : Option Bool) (fields : List Nat) (left : Nat) (text : List Char)
    (size : Nat) : Option Clock :=
  match left with
  | 0 => readFraction? fields text size
  | left + 1 =>
      match digits? (text.take 2) with
      | none => none
      | some n =>
          let mark := text.drop 2
          let colon := mark.head? = some ':'
          let colons := separated.getD colon
          let fields := fields ++ [n]
          if text.length < 2 then none
          else if size ≤ 3 then some ⟨fields, 0, !ended mark⟩
          else if colons && colon then
            readFields? (some colons) fields left (mark.drop 1) (size - 3)
          else if mark.head? = some '.' ∨ mark.head? = some ',' then
            readFraction? fields (mark.drop 1) (size - 3)
          else if colons then none
          else readFields? (some colons) fields left mark (size - 2)

def readClock? (text : List Char) (size : Nat) : Option Clock :=
  readFields? none [] 3 text size

def Clock.time (c : Clock) : TimeOfDay :=
  ⟨c.fields.getD 0 0, c.fields.getD 1 0, c.fields.getD 2 0, c.micro⟩

def startsOffset (c : Char) : Bool :=
  c = '+' || c = '-' || c = 'Z'

/-- The microseconds of an offset. An offset of whole zero seconds is universal time; it has to
stay below a day on either side. -/
def offsetOf? (negative : Bool) (c : Clock) : Option Int :=
  let t := c.time
  let n : Int := t.micros
  if t.hour = 0 ∧ t.minute = 0 ∧ t.second = 0 then some 0
  else if n < dayMicros then some (if negative then -n else n)
  else none

def readTime? (text : List Char) : Option (TimeOfDay × Int) :=
  let size := (text.takeWhile (!startsOffset ·)).length
  match readClock? text size with
  | none => none
  | some clock =>
      match text.drop size with
      | [] => if clock.more then none else some (clock.time, 0)
      | mark :: rest =>
          if mark = 'Z' then
            if ended rest then some (clock.time, 0) else none
          else
            match readClock? rest rest.length with
            | none => none
            | some c =>
                if c.more then none
                else (offsetOf? (mark = '-') c).map fun o => (clock.time, o)

def readDate? (text : List Char) : Option Date :=
  match text with
  | [a, b, c, d, '-', e, f, '-', g, h] =>
      match digits? [a, b, c, d], digits? [e, f], digits? [g, h] with
      | some y, some m, some dd => some ⟨y, m, dd⟩
      | _, _, _ => none
  | _ => none

/-- A character outside ASCII counts twice, so that it never stands for a separator alone. -/
def widen (text : List Char) : List Char :=
  text.flatMap fun c => if c.toNat < 128 then [c] else [c, c]

def readFull? (text : List Char) : Option Instant :=
  match readDate? (text.take 10) with
  | none => none
  | some date =>
      let found : Option (TimeOfDay × Int) :=
        match text.drop 10 with
        | [] => some (.midnight, 0)
        | _ :: rest => if rest.isEmpty then none else readTime? (widen rest)
      found.bind fun (time, offset) =>
        if date.valid && time.valid then some ⟨date, time, offset⟩ else none

def isOffset (count : Nat) : List Char → Bool
  | c :: ds => (c = '+' || c = '-') && ds.length = count && ds.all Char.isDigit
  | [] => false

/-- Completes an offset at the end of a text: `Z` to `+00:00`, `+0530` to `+05:30`, `+05` to
`+05:00`. A text that may be a date alone is left as it is. -/
def completeOffset (text : List Char) : List Char :=
  match text.getLast? with
  | none => text
  | some c =>
      if c = 'Z' ∨ c = 'z' then text.dropLast ++ "+00:00".toList
      else if text.length ≤ 10 then text
      else if isOffset 4 (text.drop (text.length - 5)) then
        text.take (text.length - 2) ++ ':' :: text.drop (text.length - 2)
      else if isOffset 2 (text.drop (text.length - 3)) then text ++ ":00".toList
      else text

/-- Reads an instant. Blanks may follow it but not precede it. -/
def read? (text : List Char) : Option Instant :=
  match readDate? (text.take 10) with
  | none => none
  | some _ => readFull? (completeOffset (Text.trim text))

/-- Where the character between date and time stands, which may be anything. -/
def separatorPlace : Nat := 10

/-- Reads an instant, in which a surrogate may separate date and time but not stand elsewhere. -/
def readCodes? (text : Codes) : Option Instant :=
  Codes.chars? (text.modify separatorPlace fun c => .char (c.char?.getD 'T')) |>.bind read?

@[simp] theorem readCodes?_ofChars (text : List Char) :
    readCodes? (.ofChars text) = read? text := by
  have same : (Codes.ofChars text).modify separatorPlace (fun c => .char (c.char?.getD 'T')) =
      Codes.ofChars text := by
    refine List.ext_getElem? fun place => ?_
    rw [List.getElem?_modify, Codes.ofChars, List.getElem?_map]
    cases text[place]? <;> simp [CodePoint.char?]
  rw [readCodes?, same, Codes.chars?_ofChars, Option.bind_some]

@[simp] theorem readCodes?_ofString (text : String) :
    readCodes? (.ofString text) = read? text.toList :=
  readCodes?_ofChars _

end TableServer.Instant
