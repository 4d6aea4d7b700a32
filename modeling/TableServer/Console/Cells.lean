import TableServer.Console.Cells.Hidden
import TableServer.Console.Cells.Pictured
import TableServer.Console.Cells.Wide

/-! Widths of texts on a console, in cells. A mark belongs to the character before it, and so does
what is joined to it: a text is shown as groups that are never taken apart. -/
namespace TableServer.Console

def joiner : Char := '\u200D'

def pictureMark : Char := '\uFE0F'

def isControl (c : Char) : Bool :=
  c.toNat < 0x20 || (0x7F ≤ c.toNat && c.toNat < 0xA0)

def cellsOf (c : Char) : Nat :=
  if isControl c then 0
  else if c.toNat < 0x7F then 1
  else if hiddenRuns.holds c then 0
  else if wideRuns.holds c then 2
  else 1

def pictureCells : Option Char → Nat
  | some c => if picturedRuns.holds c then 1 else 0
  | none => 0

/-- The cells of a text behind the character `last` that was shown last. What follows a joiner is
part of the character before it. -/
def cellsFrom (last : Option Char) : List Char → Nat
  | [] => 0
  | [c] => if c = joiner then 0 else if c = pictureMark then pictureCells last else cellsOf c
  | c :: next :: rest =>
      if c = joiner then cellsFrom last rest
      else if c = pictureMark then pictureCells last + cellsFrom none (next :: rest)
      else if cellsOf c = 0 then cellsFrom last (next :: rest)
      else cellsOf c + cellsFrom (some c) (next :: rest)

def cells (text : List Char) : Nat :=
  cellsFrom none text

structure Group where
  text : List Char
  cells : Nat

/-- Groups as they are made: the last one first, and the character that was shown last. -/
structure Grouping where
  groups : List Group := []
  last : Option Char := none

namespace Grouping

def extend (g : Grouping) (text : List Char) (more : Nat) : List Group :=
  match g.groups with
  | [] => [⟨text, more⟩]
  | group :: before => ⟨group.text ++ text, group.cells + more⟩ :: before

/-- A picture mark counts once for a character. -/
def addPictureMark (g : Grouping) : Grouping :=
  let more := if g.groups.isEmpty then 0 else pictureCells g.last
  ⟨g.extend [pictureMark] more, if more = 0 then g.last else none⟩

def add (g : Grouping) (c : Char) : Grouping :=
  if c = pictureMark then g.addPictureMark
  else if cellsOf c = 0 then { g with groups := g.extend [c] 0 }
  else ⟨⟨[c], cellsOf c⟩ :: g.groups, some c⟩

def addAll (g : Grouping) : List Char → Grouping
  | [] => g
  | [c] => g.add c
  | c :: next :: rest =>
      if c = joiner && !g.groups.isEmpty then
        addAll { g with groups := g.extend [c, next] 0 } rest
      else addAll (g.add c) (next :: rest)

end Grouping

def groups (text : List Char) : List Group :=
  (Grouping.addAll {} text).groups.reverse

/-- The start of groups that takes just so many cells; half of a group is blank. -/
def cropGroups : (width : Nat) → List Group → List Char
  | _, [] => []
  | width, group :: rest =>
      if width = 0 then []
      else if group.cells ≤ width then group.text ++ cropGroups (width - group.cells) rest
      else [' ']

def blanks (n : Nat) : List Char :=
  List.replicate n ' '

/-- Crops a text, or fills it with blanks, so that it takes just so many cells. -/
def fit (width : Nat) (text : List Char) : List Char :=
  if cells text ≤ width then text ++ blanks (width - cells text)
  else cropGroups width (groups text)

def chopGroups (width used : Nat) (line : List Char) : List Group → List (List Char)
  | [] => if used = 0 then [] else [line]
  | group :: rest =>
      if used + group.cells ≤ width then
        chopGroups width (used + group.cells) (line ++ group.text) rest
      else line :: chopGroups width group.cells group.text rest

def chop (width : Nat) (text : List Char) : List (List Char) :=
  chopGroups width 0 [] (groups text)

end TableServer.Console
