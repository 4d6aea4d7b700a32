import TableServer.Console.Cells
import TableServer.Text.Blank
import TableServer.Text.Parts

/-! Texts on lines of a width. A text is broken between words; what is still too wide is cut. -/
namespace TableServer.Console

/-- How a word is treated that is wider than a line: it goes on in the next line, or it is cut and
ends in an ellipsis. -/
inductive Overflow where
  | fold
  | ellipsis
deriving DecidableEq

inductive Alignment where
  | free
  | left
  | centre
  | right

def tabWidth : Nat := 8

def expandTabs (position : Nat) : List (List Char) → List Char
  | [] => []
  | [part] => part
  | part :: rest =>
      let stop := position + cells (part ++ [' '])
      let more := (tabWidth - stop % tabWidth) % tabWidth
      part ++ ' ' :: blanks more ++ expandTabs (stop + more) rest

def runs : List Char → List (List Char)
  | [] => []
  | c :: rest =>
      match runs rest with
      | (d :: run) :: others =>
          if Text.isBlank c = Text.isBlank d then (c :: d :: run) :: others
          else [c] :: (d :: run) :: others
      | others => [c] :: others

def joinBlanks : List (List Char) → List (List Char)
  | word :: gap :: rest => (word ++ gap) :: joinBlanks rest
  | rest => rest

def wordsOfLine (line : List Char) : List (List Char) :=
  match runs line with
  | (c :: run) :: word :: rest =>
      if Text.isBlank c then
        match joinBlanks (word :: rest) with
        | first :: others => (c :: run ++ first) :: others
        | [] => []
      else joinBlanks ((c :: run) :: word :: rest)
  | rest => rest

/-- Lines as they are filled: those that are full, the last one first, the one that is filled, and
the cells that it takes. -/
structure Filling where
  full : List (List Char) := []
  current : List Char := []
  used : Nat := 0

namespace Filling

def addHere (f : Filling) (word : List Char) : Filling :=
  ⟨f.full, f.current ++ word, f.used + cells word⟩

def addBelow (f : Filling) (word : List Char) : Filling :=
  ⟨if f.current.isEmpty then f.full else f.current :: f.full, word, cells word⟩

def add (width : Nat) (overflow : Overflow) (f : Filling) (word : List Char) : Filling :=
  let needed := cells (Text.trimEnd word)
  if f.used + needed ≤ width then f.addHere word
  else if width < needed && overflow = .fold then (chop width word).foldl addBelow f
  else f.addBelow word

def lines (f : Filling) : List (List Char) :=
  (f.current :: f.full).reverse

end Filling

def breakLine (width : Nat) (overflow : Overflow) (line : List Char) : List (List Char) :=
  ((wordsOfLine line).foldl (Filling.add width overflow) {}).lines

/-- Drops blanks at the end of a line that has more characters than cells. -/
def trimExcess (width : Nat) (line : List Char) : List Char :=
  let trailing := line.length - (Text.trimEnd line).length
  line.take (line.length - Nat.min trailing (line.length - width))

def truncate (width : Nat) (overflow : Overflow) (line : List Char) : List Char :=
  if cells line ≤ width then line
  else
    match overflow with
    | .fold => fit width line
    | .ellipsis => fit (width - 1) line ++ ['…']

def Alignment.place (width : Nat) (overflow : Overflow) (line : List Char) :
    Alignment → List Char
  | free => truncate width overflow line
  | left => truncate width overflow line ++ blanks (width - cells line)
  | centre =>
      let line := truncate width overflow (Text.trimEnd line)
      let line := blanks ((width - cells line) / 2) ++ line
      line ++ blanks (width - cells line)
  | right =>
      let line := truncate width overflow (Text.trimEnd line)
      blanks (width - cells line) ++ line

def wrap (width : Nat) (overflow : Overflow) (alignment : Alignment) (text : List Char) :
    List (List Char) :=
  (Text.splitOn '\n' text).flatMap fun line =>
    let line := expandTabs 0 (Text.splitOn '\t' line)
    (breakLine width overflow line).map fun line =>
      alignment.place width overflow (trimExcess width line)

end TableServer.Console
