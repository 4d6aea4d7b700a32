import TableServer.Console.Style.Colours
import TableServer.Entries
import TableServer.Failure
import TableServer.Text.Blank
import TableServer.Text.Case
import TableServer.Text.Parts

/-! Styles of console texts: attributes, a colour, the colour of the ground and a link. Two names
that give the same style have one normal form. -/
namespace TableServer.Console

structure Style where
  attributes : Entries Bool := []
  colour : Option (List Char) := none
  ground : Option (List Char) := none
  link : Option (List Char) := none

namespace Style

def attributeNames : List String :=
  ["bold", "dim", "italic", "underline", "blink", "blink2", "reverse", "conceal", "strike",
   "underline2", "frame", "encircle", "overline"]

def shortNames : List (String × String) :=
  [("d", "dim"), ("b", "bold"), ("i", "italic"), ("u", "underline"), ("r", "reverse"),
   ("c", "conceal"), ("s", "strike"), ("uu", "underline2"), ("o", "overline")]

def attribute? (word : List Char) : Option String :=
  let word := String.ofList word
  if word ∈ attributeNames then some word else shortNames.lookup word

def isLowHex (c : Char) : Bool :=
  c.isDigit || ('a' ≤ c && c ≤ 'f')

def argument? (function word : List Char) : Option (List Char) :=
  (Text.dropStart? function word).bind (Text.dropEnd? [')'])

def isComponentChar (c : Char) : Bool :=
  Text.isDecimal c || c = ','

def readComponent (text : List Char) : Except Fault Int :=
  (Number.readInteger text).mapError fun cause => .integer cause text

def isMixture (components : List (List Char)) : Except Fault Bool :=
  if components.length = 3 then
    (components.mapM readComponent).map fun values => values.all (· ≤ 255)
  else .ok false

/-- Whether a word in lower case is a colour: a name, six hexadecimal figures, a number up to
255, or three such numbers. -/
def isColour (word : List Char) : Except Fault Bool :=
  if word = "default".toList || (Text.words colourNames.toList).any (· = word) then .ok true
  else
    match word, argument? "color(".toList word, argument? "rgb(".toList word with
    | '#' :: figures, _, _ => .ok (figures.length = 6 && figures.all isLowHex)
    | _, some digits, _ =>
        .ok (digits.all Char.isDigit && 0 < digits.length && digits.length ≤ 3 &&
          Number.ofDigits (Number.digitValues digits) ≤ 255)
    | _, none, some components =>
        if components.all isComponentChar && !components.isEmpty then
          isMixture (Text.splitOn ',' components)
        else .ok false
    | _, none, none => .ok false

def withColour? (set : List Char → Style) (word : List Char) : Except Fault (Option Style) :=
  let word := Text.lower word
  (isColour word).map fun known => if known then some (set word) else none

def give (s : Style) (name : String) (on : Bool) : Style :=
  { s with attributes := Entries.put name on s.attributes }

/-- Reads the words of a style; none if they give none. -/
def readWords (s : Style) : List (List Char) → Except Fault (Option Style)
  | [] => .ok (some s)
  | word :: rest =>
      let low := Text.lower word
      if low = "on".toList then
        match rest with
        | [] => .ok none
        | word :: rest =>
            (withColour? (fun c => { s with ground := some c }) word).bind fun
              | some s => readWords s rest
              | none => .ok none
      else if low = "not".toList then
        match rest with
        | [] => .ok none
        | word :: rest =>
            match attribute? word with
            | some name => readWords (s.give name false) rest
            | none => .ok none
      else if low = "link".toList then
        match rest with
        | [] => .ok none
        | word :: rest => readWords { s with link := some word } rest
      else
        match attribute? low with
        | some name => readWords (s.give name true) rest
        | none =>
            (withColour? (fun c => { s with colour := some c }) low).bind fun
              | some s => readWords s rest
              | none => .ok none

def read (text : List Char) : Except Fault (Option Style) :=
  if Text.trim text = "none".toList then .ok (some {}) else readWords {} (Text.words text)

def toWords (s : Style) : List (List Char) :=
  let attributes := attributeNames.filterMap fun name =>
    (Entries.find? name s.attributes).map fun given =>
      if given then name.toList else ("not " ++ name).toList
  attributes ++ s.colour.toList ++ (s.ground.elim [] fun c => ["on".toList, c]) ++
    (s.link.elim [] fun l => ["link".toList, l])

def text (s : Style) : List Char :=
  match s.toWords with
  | [] => "none".toList
  | parts => List.intercalate [' '] parts

/-- The normal form of a style name; of a name that gives no style the name in lower case. -/
def normalize (name : List Char) : Except Fault (List Char) :=
  (read name).map fun
    | some s => s.text
    | none => Text.lower (Text.trim name)

end Style

end TableServer.Console
