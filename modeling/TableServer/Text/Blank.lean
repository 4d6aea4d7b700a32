import TableServer.Text.Runs

/-! Blank characters of every script, and trimming. -/
namespace TableServer.Text

def blankRuns : Runs :=
  [(0x9, 0xd), (0x1c, 0x20), (0x85, 0x85), (0xa0, 0xa0), (0x1680, 0x1680), (0x2000, 0x200a),
   (0x2028, 0x2029), (0x202f, 0x202f), (0x205f, 0x205f), (0x3000, 0x3000)]

def isBlank (c : Char) : Bool :=
  blankRuns.holds c

def trimWhere (p : Char → Bool) (text : List Char) : List Char :=
  ((text.dropWhile p).reverse.dropWhile p).reverse

def trim (text : List Char) : List Char :=
  trimWhere isBlank text

def trimEnd (text : List Char) : List Char :=
  (text.reverse.dropWhile isBlank).reverse

/-- The parts between blanks; those between two blanks are empty. -/
def blankParts : List Char → List (List Char)
  | [] => [[]]
  | c :: rest =>
      if isBlank c then [] :: blankParts rest
      else match blankParts rest with
        | [] => [[c]]
        | part :: parts => (c :: part) :: parts

def words (text : List Char) : List (List Char) :=
  (blankParts text).filter fun part => !part.isEmpty

end TableServer.Text
