import TableServer.Http.Domain.Allowed
import TableServer.Http.Domain.Composed
import TableServer.Http.Domain.Direction
import TableServer.Http.Domain.Joining
import TableServer.Http.Domain.Punycode
import TableServer.Http.Domain.Scripts
import TableServer.Text.Parts
import TableServer.Text.Quoted

/-! Labels: the parts of domain names between dots, in characters of all scripts or, behind a mark
of four characters, in ASCII. -/
namespace TableServer

/-- Why a label or a domain name is refused. Positions count from one. -/
inductive DomainFault where
  | emptyName
  | nameTooLong
  | emptyLabel
  | labelTooLong
  | noCode
  | hyphenAtEnd
  | unreadableCode
  | notComposed
  | hyphenPair
  | hyphenAtEdge
  | leadingMark
  | character (c : Char) (position : Nat) (label : List Char)
  | joiner (c : Char) (position : Nat) (label : List Char)
  | context (c : Char) (position : Nat) (label : List Char)
  | unknownDirection (position : Nat) (label : List Char)
  | firstDirection (label : List Char)
  | direction (position : Nat) (rightToLeft : Bool)
  | mixedNumbers
  | lastDirection

namespace DomainFault

def codeText (c : Char) : String :=
  let width := if c.toNat < 0x10000 then 4 else if c.toNat < 0x100000 then 5 else 6
  "U+" ++ String.ofList ((Text.hexFigures width c.toNat).map Char.toUpper)

def labelText (label : List Char) : String :=
  Text.quoted (String.ofList label)

def message : DomainFault → String
  | emptyName => "Empty domain"
  | nameTooLong => "Domain too long"
  | emptyLabel => "Empty Label"
  | labelTooLong => "Label too long"
  | noCode => "Malformed A-label, no Punycode eligible content found"
  | hyphenAtEnd => "A-label must not end with a hyphen"
  | unreadableCode => "Invalid A-label"
  | notComposed => "Label must be in Normalization Form C"
  | hyphenPair => "Label has disallowed hyphens in 3rd and 4th position"
  | hyphenAtEdge => "Label must not start or end with a hyphen"
  | leadingMark => "Label begins with an illegal combining character"
  | character c position label =>
      s!"Codepoint {codeText c} at position {position} of {labelText label} not allowed"
  | joiner c position label =>
      let place := s!"at position {position} in {labelText label}"
      s!"Unknown codepoint adjacent to joiner {codeText c} {place}"
  | context c position label =>
      s!"Codepoint {codeText c} not allowed at position {position} in {labelText label}"
  | unknownDirection position label =>
      s!"Unknown directionality in label {labelText label} at position {position}"
  | firstDirection label =>
      s!"First codepoint in label {labelText label} must be directionality L, R or AL"
  | direction position rightToLeft =>
      let order := if rightToLeft then "right-to-left" else "left-to-right"
      s!"Invalid direction for codepoint at position {position} in a {order} label"
  | mixedNumbers => "Can not mix numeral types in a right-to-left label"
  | lastDirection => "Label ends with illegal codepoint directionality"

end DomainFault

namespace Domain

def labelLimit : Nat := 63

/-- The class of the mark that takes the vowel from a letter and so joins it to the next one. -/
def viramaClass : Nat := 9

def joiningOf (c : Char) : Option Joining :=
  Text.findRun? c.toNat joiningRuns

def directionOf (c : Char) : Direction :=
  (Text.findRun? c.toNat directionRuns).getD .left

def followsVirama (before : List Char) : Bool :=
  before.head?.any fun c => classOf c.toNat = viramaClass

/-- How the nearest character joins that is not passed over. -/
def nearestJoining (text : List Char) : Option Joining :=
  ((text.dropWhile fun c => joiningOf c = some .transparent).head?).bind joiningOf

def partsLetters (before after : List Char) : Bool :=
  (nearestJoining before = some .left || nearestJoining before = some .dual) &&
    (nearestJoining after = some .right || nearestJoining after = some .dual)

def isArabicFigure (c : Char) : Bool :=
  0x660 ≤ c.toNat && c.toNat ≤ 0x669

def isEasternFigure (c : Char) : Bool :=
  0x6F0 ≤ c.toNat && c.toNat ≤ 0x6F9

/-- Whether a character may stand between others, `before` reversed. None for a character that no
rule on its neighbours names. -/
def fitsBetween (before : List Char) (c : Char) (after : List Char) : Option Bool :=
  if c = '\u200C' then some (followsVirama before || partsLetters before after)
  else if c = '\u200D' then some (followsVirama before)
  else if c = '\u00B7' then some (before.head? = some 'l' && after.head? = some 'l')
  else if c = '\u0375' then some (after.head?.any greekRuns.holds)
  else if c = '\u05F3' || c = '\u05F4' then some (before.head?.any hebrewRuns.holds)
  else if c = '\u30FB' then some (before.any japaneseRuns.holds || after.any japaneseRuns.holds)
  else if isArabicFigure c then some (!(before ++ after).any isEasternFigure)
  else if isEasternFigure c then some (!(before ++ after).any isArabicFigure)
  else none

def isJoiner (c : Char) : Bool :=
  c = '\u200C' || c = '\u200D'

/-- Checks the characters of a label behind `before`, which is reversed. -/
def checkCharacters (label before : List Char) : List Char → Except DomainFault Unit
  | [] => .ok ()
  | c :: rest =>
      let position := before.length + 1
      if allowedRuns.holds c then checkCharacters label (c :: before) rest
      else
        match fitsBetween before c rest with
        | none => .error (.character c position label)
        | some false =>
            .error (if isJoiner c then .joiner c position label else .context c position label)
        | some true => checkCharacters label (c :: before) rest

def isRightToLeft (d : Direction) : Bool :=
  d = .right || d = .arabic || d = .arabicNumber

/-- Whether a direction has no place in a label that is written from right to left or from left to
right. -/
def isForeign (rightToLeft : Bool) (d : Direction) : Bool :=
  if rightToLeft then d = .left else isRightToLeft d

def mayEnd (rightToLeft : Bool) (d : Direction) : Bool :=
  d = .number || if rightToLeft then isRightToLeft d else d = .left

def isNumeral (d : Direction) : Bool :=
  d = .number || d = .arabicNumber

/-- Checks the directions in a label. Numerals of two kinds do not stand together in one that is
written from right to left. -/
def checkDirections (rightToLeft : Bool) (position : Nat) (numeral : Option Direction) :
    List Direction → Except DomainFault Unit
  | [] => .ok ()
  | d :: rest =>
      if isForeign rightToLeft d then .error (.direction position rightToLeft)
      else if rightToLeft && isNumeral d then
        if numeral.any (· ≠ d) then .error .mixedNumbers
        else checkDirections rightToLeft (position + 1) (some d) rest
      else checkDirections rightToLeft (position + 1) numeral rest

/-- Checks the directions of a label. Only one with characters written from right to left has to
keep their rules. -/
def checkOrder (label : List Char) : Except DomainFault Unit :=
  let directions := label.map directionOf
  match directions.findIdx? (· = .unknown), directions with
  | some place, _ => .error (.unknownDirection (place + 1) label)
  | none, [] => .ok ()
  | none, first :: _ =>
      if !directions.any isRightToLeft then .ok ()
      else
        let rightToLeft := first = .right || first = .arabic
        if !rightToLeft && first ≠ .left then .error (.firstDirection label)
        else
          (checkDirections rightToLeft 1 none directions).bind fun _ =>
            let last := (directions.reverse.dropWhile (· = .mark)).head?
            if last.any (mayEnd rightToLeft) then .ok () else .error .lastDirection

def checkHyphens (label : List Char) : Except DomainFault Unit :=
  if (label.drop 2).take 2 = ['-', '-'] then .error .hyphenPair
  else if label.head? = some '-' || label.getLast? = some '-' then .error .hyphenAtEdge
  else .ok ()

def nameLimit : Nat := 254

def checkLabel (label : List Char) : Except DomainFault Unit := do
  if label.isEmpty then throw .emptyLabel
  if nameLimit < label.length then throw .labelTooLong
  if !isComposed (label.map Char.toNat) then throw .notComposed
  checkHyphens label
  if label.head?.any markRuns.holds then throw .leadingMark
  checkCharacters label [] label
  checkOrder label

def codeMark : List Char :=
  "xn--".toList

def readLabel (label : List Char) : Except DomainFault (List Char) :=
  let label := label.map Char.toLower
  match Text.dropStart? codeMark label with
  | none => (checkLabel label).map fun _ => label
  | some code =>
      if code.isEmpty then .error .noCode
      else if code.getLast? = some '-' then .error .hyphenAtEnd
      else
        match Punycode.decode? code with
        | none => .error .unreadableCode
        | some label => (checkLabel label).map fun _ => label

def writeLabel (label : List Char) : Except DomainFault (List Char) := do
  let written ←
    if label.all Punycode.isBasic then (readLabel label).map fun _ => label
    else (checkLabel label).map fun _ => codeMark ++ Punycode.encode label
  if labelLimit < written.length then throw .labelTooLong
  return written

end Domain

end TableServer
