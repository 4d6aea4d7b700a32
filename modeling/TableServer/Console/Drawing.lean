import TableServer.Console.Markup
import TableServer.Console.Wrap

/-! Drawings of two columns in boxes under a centred title: a text on the left and a count on the
right. Texts may have markup. -/
namespace TableServer.Console

def consoleWidth : Nat := 4000

def line (mark : Char) (width : Nat) : List Char :=
  List.replicate width mark

structure Rule where
  left : Char
  fill : Char
  middle : Char
  right : Char

def Rule.draw (r : Rule) (first second : Nat) : List Char :=
  r.left :: line r.fill (first + 2) ++ r.middle :: line r.fill (second + 2) ++ [r.right]

def topRule : Rule := ⟨'┏', '━', '┳', '┓'⟩

def headRule : Rule := ⟨'┡', '━', '╇', '┩'⟩

def endRule : Rule := ⟨'└', '─', '┴', '┘'⟩

def endsLine (c : Char) : Bool :=
  c ∈ ['\n', '\x1c', '\x1d', '\x1e', '\u0085', '\u2028', '\u2029']

def measuredLines : List Char → List (List Char)
  | [] => [[]]
  | c :: rest =>
      if endsLine c then [] :: measuredLines rest
      else
        match measuredLines rest with
        | [] => [[c]]
        | first :: others => (c :: first) :: others

def widest (texts : List (List Char)) : Nat :=
  (texts.flatMap measuredLines).foldl (fun w line => Nat.max w (cells line)) 0

structure Columns where
  first : Nat
  second : Nat

namespace Columns

/-- The first column is as wide as the console admits beside the second one. -/
def ofTexts (first second : List (List Char)) : Columns :=
  let second := widest second
  ⟨Nat.min (widest first) (consoleWidth - 3 - (second + 2) - 2), second⟩

def width (c : Columns) : Nat :=
  c.first + c.second + 7

def drawLine (c : Columns) (border : Char) (texts : Option (List Char) × Option (List Char)) :
    List Char :=
  [border, ' '] ++ texts.1.getD (blanks c.first) ++ [' ', border, ' '] ++
    texts.2.getD (blanks c.second) ++ [' ', border]

def drawRow (c : Columns) (border : Char) (row : List Char × List Char) : List (List Char) :=
  let first := wrap c.first .ellipsis .left row.1
  let second := wrap c.second .ellipsis .right row.2
  (List.range (Nat.max first.length second.length)).map fun i =>
    c.drawLine border (first[i]?, second[i]?)

def draw (c : Columns) (title : List Char) (head : List Char × List Char)
    (rows : List (List Char × List Char)) : List (List Char) :=
  wrap c.width .fold .centre title ++
    topRule.draw c.first c.second :: c.drawRow '┃' head ++
    headRule.draw c.first c.second :: rows.flatMap (c.drawRow '│') ++
    [endRule.draw c.first c.second]

end Columns

def draw (title : String) (head : String × String) (rows : List (String × Nat)) :
    Except MarkupFault (List String) := do
  let title ← render title.toList
  let head := (head.1.toList, head.2.toList)
  let rows ← rows.mapM fun r => (render r.1.toList).map fun text => (text, (toString r.2).toList)
  let columns := Columns.ofTexts (head.1 :: rows.map Prod.fst) (head.2 :: rows.map Prod.snd)
  return (columns.draw title head rows).map String.ofList

end TableServer.Console
