/-! Texts of all characters in letters, figures and hyphens. The ASCII characters come first; behind
the last hyphen stand numbers that tell in turn where the other characters are put in. -/
namespace TableServer.Domain.Punycode

def base : Nat := 36

/-- The threshold of a figure: a figure below it is the last one of its number. -/
def threshold (place bias : Nat) : Nat :=
  Nat.min 26 (Nat.max 1 (place - bias))

theorem threshold_pos (place bias : Nat) : 0 < threshold place bias := by
  simp only [threshold, Nat.min_def, Nat.max_def]
  split <;> split <;> omega

/-- How often a number is divided until it is small, and what is left of it. -/
def shrink (count number : Nat) : Nat × Nat :=
  if 455 < number then shrink (count + 1) (number / 35) else (count, number)
termination_by number
decreasing_by omega

/-- The bias behind a number that was written as the `count`-th character was put in. -/
def adapt (first : Bool) (number count : Nat) : Nat :=
  let damped := number / if first then 700 else 2
  let (times, rest) := shrink 0 (damped + damped / count)
  base * times + base * rest / (rest + 38)

def figure (n : Nat) : Char :=
  if n < 26 then Char.ofNat (97 + n) else Char.ofNat (22 + n)

def figureValue? (c : Char) : Option Nat :=
  if c.isDigit then some (c.toNat - 22)
  else if c.isLower then some (c.toNat - 97)
  else if c.isUpper then some (c.toNat - 65)
  else none

def writeNumber (bias place number : Nat) : List Char :=
  let t := threshold place bias
  if number < t then [figure number]
  else
    figure (t + (number - t) % (base - t)) ::
      writeNumber bias (place + base) ((number - t) / (base - t))
termination_by number
decreasing_by
  have positive := threshold_pos place bias
  have smaller := Nat.div_le_self (number - threshold place bias) (base - threshold place bias)
  omega

/-- A text as it is written: the numbers, the steps since the last one, the bias, and how many
characters are there. -/
structure Writing where
  written : List Char := []
  steps : Nat := 0
  bias : Nat := 72
  first : Bool := true
  count : Nat

namespace Writing

def pass (code : Nat) (w : Writing) (c : Char) : Writing :=
  if c.toNat < code then { w with steps := w.steps + 1 }
  else if c.toNat = code then
    { written := w.written ++ writeNumber w.bias base w.steps
      steps := 0
      bias := adapt w.first w.steps (w.count + 1)
      first := false
      count := w.count + 1 }
  else w

/-- Writes the characters of each code; `next` is the code behind the last one. -/
def writeCodes (text : List Char) (next : Nat) (w : Writing) : List Nat → List Char
  | [] => w.written
  | code :: rest =>
      let start := { w with steps := w.steps + (code - next) * (w.count + 1) }
      let passed := text.foldl (pass code) start
      writeCodes text (code + 1) { passed with steps := passed.steps + 1 } rest

end Writing

def isBasic (c : Char) : Bool :=
  c.toNat < 128

def encode (text : List Char) : List Char :=
  let basic := text.filter isBasic
  let others := ((text.filter fun c => !isBasic c).map Char.toNat).mergeSort.eraseDups
  basic ++ (if basic.isEmpty then [] else ['-']) ++
    Writing.writeCodes text 128 { count := basic.length } others

/-- A text as it is read: the characters so far, the code and the place of the next one, and the
number that is read, with its next weight and threshold place. -/
structure Reading where
  text : List Char
  code : Nat := 128
  place : Nat := 0
  bias : Nat := 72
  first : Bool := true
  number : Nat := 0
  weight : Nat := 1
  step : Nat := base

namespace Reading

/-- Puts a character in; none if there is no such character. -/
def insert? (r : Reading) (number : Nat) : Option Reading :=
  let count := r.text.length + 1
  let code := r.code + (r.place + number) / count
  let place := (r.place + number) % count
  if 0x10FFFF < code then none
  else
    let c := if 0xD800 ≤ code && code < 0xE000 then '\uFFFD' else Char.ofNat code
    some { text := r.text.take place ++ c :: r.text.drop place
           code := code
           place := place + 1
           bias := adapt r.first number count
           first := false }

/-- Reads the numbers; none for a wrong figure or a number without an end. -/
def read (r : Reading) : List Char → Option (List Char)
  | [] => if r.step = base then some r.text else none
  | c :: rest =>
      match figureValue? c with
      | none => none
      | some d =>
          let t := threshold r.step r.bias
          let number := r.number + d * r.weight
          if d < t then
            match r.insert? number with
            | some r => read r rest
            | none => none
          else
            read { r with number := number, weight := r.weight * (base - t), step := r.step + base }
              rest

end Reading

def decode? (text : List Char) : Option (List Char) :=
  match text.reverse.span (· ≠ '-') with
  | (_, []) => Reading.read { text := [] } text
  | (numbers, _ :: basic) => Reading.read { text := basic.reverse } numbers.reverse

end TableServer.Domain.Punycode
