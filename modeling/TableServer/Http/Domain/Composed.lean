import TableServer.Http.Domain.Composition
import TableServer.Http.Domain.Marks

/-! The composed form of texts: marks stand in the order of their classes, and characters that can
be composed are. -/
namespace TableServer.Domain

/-- The class of a mark; zero for all other characters. -/
def classOf (code : Nat) : Nat :=
  (Text.findRun? code classRuns).getD 0

/-- A composed character is composed of at most this many marks and a plain one. -/
def compositionDepth : Nat := 4

def decompose : (depth : Nat) → Nat → List Nat
  | 0, code => [code]
  | depth + 1, code =>
      match compositions.lookup code with
      | some (first, second) => decompose depth first ++ [second]
      | none => [code]

/-- Puts a character behind others, which are reversed: a mark goes before marks of higher
classes. -/
def insertMark (code : Nat) : List Nat → List Nat
  | [] => [code]
  | last :: before =>
      if classOf code ≠ 0 && classOf code < classOf last then last :: insertMark code before
      else code :: last :: before

def order (codes : List Nat) : List Nat :=
  (codes.foldl (fun before code => insertMark code before) []).reverse

/-- The syllable that two Korean letters, or a syllable without a final letter and one, are
composed to. -/
def composeSyllable? (first second : Nat) : Option Nat :=
  if 0x1100 ≤ first && first < 0x1113 && 0x1161 ≤ second && second < 0x1176 then
    some (0xAC00 + ((first - 0x1100) * 21 + (second - 0x1161)) * 28)
  else if 0xAC00 ≤ first && first < 0xD7A4 && (first - 0xAC00) % 28 = 0 && 0x11A8 ≤ second &&
      second < 0x11C3 then
    some (first + (second - 0x11A7))
  else none

def compose? (first second : Nat) : Option Nat :=
  match compositions.find? fun c => c.2 = (first, second) with
  | some c => some c.1
  | none => composeSyllable? first second

/-- A text as it is composed: the plain character that takes marks, the marks behind it that it
could not take, reversed, and what stands before, reversed. -/
structure Composing where
  before : List Nat := []
  plain : Option Nat := none
  marks : List Nat := []

namespace Composing

def done (c : Composing) : List Nat :=
  c.marks ++ c.plain.toList ++ c.before

/-- Adds a character. It is taken unless a mark of its class or a higher one stands between. -/
def add (c : Composing) (code : Nat) : Composing :=
  let free := match c.marks with
    | [] => true
    | last :: _ => classOf last < classOf code
  match if free then c.plain.bind fun plain => compose? plain code else none with
  | some composed => { c with plain := some composed }
  | none =>
      if classOf code = 0 then ⟨c.done, some code, []⟩ else { c with marks := code :: c.marks }

end Composing

def composed (codes : List Nat) : List Nat :=
  let parts := order (codes.flatMap (decompose compositionDepth))
  (parts.foldl Composing.add {}).done.reverse

def isComposed (codes : List Nat) : Bool :=
  codes.all (fun code => (replacedRuns.placeOf? code).isNone) && composed codes = codes

end TableServer.Domain
