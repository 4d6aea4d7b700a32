import TableServer.Number.Reader
import TableServer.Text.Parts

/-! Arguments that a tag may carry: numbers, texts, constants, and lists, sets and tables of them.
Only whether a text spells an argument counts, so that of its value just the kind is kept. -/
namespace TableServer.Console

/-- Kinds of arguments. A row is fixed if all its members are; a collection never is. -/
inductive Argument where
  | number
  | signedNumber
  | imaginary
  | quoted (octets : Bool)
  | constant
  | row (fixed : Bool)
  | collection
deriving DecidableEq

namespace Argument

/-- Only fixed arguments are members of sets or keys of tables. -/
def isFixed : Argument → Bool
  | row fixed => fixed
  | collection => false
  | _ => true

def behindSign? : Argument → Option Argument
  | number => some signedNumber
  | imaginary => some constant
  | _ => none

/-- The argument that a sum is: a number and an imaginary part. -/
def sum? : Argument → Argument → Option Argument
  | number, imaginary => some constant
  | signedNumber, imaginary => some constant
  | _, _ => none

def isGap (inside : Bool) (c : Char) : Bool :=
  c = ' ' || c = '\t' || c = '\x0c' || (inside && (c = '\n' || c = '\r'))

/-- Drops blanks and comments, inside brackets also the ends of lines; `comment` is set in one. -/
def skipGaps (inside comment : Bool) : List Char → List Char
  | [] => []
  | c :: rest =>
      if comment && c ≠ '\n' && c ≠ '\r' then skipGaps inside true rest
      else if isGap inside c then skipGaps inside false rest
      else if c = '#' then skipGaps inside true rest
      else
        match c, rest with
        | '\\', '\n' :: rest => skipGaps inside false rest
        | _, _ => c :: rest

/-- Figures with single underscores between them, and the rest; `due` is set where one has to
follow. -/
def scanFigures (isFigure : Char → Bool) (due : Bool) :
    List Char → Option (List Char × List Char)
  | [] => if due then none else some ([], [])
  | c :: rest =>
      if isFigure c then (scanFigures isFigure false rest).map fun p => (c :: p.1, p.2)
      else if due then none
      else if c = '_' then scanFigures isFigure true rest
      else some ([], c :: rest)

def isHexFigure (c : Char) : Bool :=
  c.isDigit || ('a' ≤ c && c ≤ 'f') || ('A' ≤ c && c ≤ 'F')

def baseFigures? (letter : Char) : Option (Char → Bool) :=
  match letter.toLower with
  | 'x' => some isHexFigure
  | 'o' => some fun c => '0' ≤ c && c ≤ '7'
  | 'b' => some fun c => c = '0' || c = '1'
  | _ => none

/-- The rest behind a point and the figures that may follow it; none without a point. -/
def scanFraction? : List Char → Option (Option (List Char))
  | '.' :: c :: rest =>
      if c.isDigit then
        some ((scanFigures Char.isDigit true (c :: rest)).map Prod.snd)
      else some (some (c :: rest))
  | ['.'] => some (some [])
  | _ => none

/-- The rest behind an exponent; none without one. -/
def scanExponent? : List Char → Option (Option (List Char))
  | c :: rest =>
      if c = 'e' || c = 'E' then
        some ((scanFigures Char.isDigit true (Number.splitSign rest).2).map Prod.snd)
      else none
  | [] => none

/-- An integer has no figures behind a leading zero, and not too many. -/
def isInteger (figures : List Char) : Bool :=
  (figures.head? != some '0' || figures.all (· = '0')) && figures.length ≤ Number.digitLimit

/-- The figures before a point; there are none only if the point and a figure follow. -/
def scanWhole (text : List Char) : Option (List Char × List Char) :=
  match text with
  | '.' :: c :: _ => if c.isDigit then some ([], text) else none
  | _ => scanFigures Char.isDigit true text

def scanDecimal (text : List Char) : Option (Argument × List Char) := do
  let (whole, rest) ← scanWhole text
  let behindFraction ← (scanFraction? rest).getD (some rest)
  let behindExponent ← (scanExponent? behindFraction).getD (some behindFraction)
  let plain := (scanFraction? rest).isNone && (scanExponent? behindFraction).isNone
  match behindExponent with
  | 'j' :: rest => some (imaginary, rest)
  | 'J' :: rest => some (imaginary, rest)
  | rest => if plain && !isInteger whole then none else some (number, rest)

def isNameChar (c : Char) : Bool :=
  c.isAlphanum || c = '_' || 128 ≤ c.toNat

def scanNumber (text : List Char) : Option (Argument × List Char) := do
  let found ← match text with
    | '0' :: letter :: rest =>
        match baseFigures? letter with
        | some isFigure =>
            let rest := if rest.head? = some '_' then rest.drop 1 else rest
            (scanFigures isFigure true rest).map fun p => (number, p.2)
        | none => scanDecimal text
    | _ => scanDecimal text
  if found.2.head?.any isNameChar then none else some found

structure Quotation where
  mark : Char
  triple : Bool
  raw : Bool
  octets : Bool

/-- The number of figures that an escape asks for; none for an escape that is not known. -/
def Quotation.figuresDue (q : Quotation) (c : Char) : Option Nat :=
  if q.raw then some 0
  else
    match c, q.octets with
    | 'x', _ => some 2
    | 'u', false => some 4
    | 'U', false => some 8
    | 'N', false => none
    | _, _ => some 0

/-- The rest behind the end of a text; `due` figures of an escape have to follow, and `escaped` is
set behind a backslash. -/
def Quotation.scan (q : Quotation) (due : Nat) (escaped : Bool) : List Char → Option (List Char)
  | [] => none
  | c :: rest =>
      if q.octets && 128 ≤ c.toNat then none
      else if 0 < due then if isHexFigure c then scan q (due - 1) false rest else none
      else if escaped then (q.figuresDue c).bind fun due => scan q due false rest
      else if c = '\\' then scan q 0 true rest
      else if c = q.mark && !q.triple then some rest
      else if c = q.mark then
        match rest with
        | a :: b :: behind => if a = q.mark && b = q.mark then some behind else scan q 0 false rest
        | _ => none
      else if !q.triple && (c = '\n' || c = '\r') then none
      else scan q 0 false rest

/-- The letters before the marks of a text: raw, octets, or neither. -/
def quotation? (letters : List Char) : Option (Bool × Bool) :=
  match String.ofList (letters.map Char.toLower) with
  | "" => some (false, false)
  | "u" => some (false, false)
  | "r" => some (true, false)
  | "b" => some (false, true)
  | "br" => some (true, true)
  | "rb" => some (true, true)
  | _ => none

def scanText? (text : List Char) : Option (Option (Argument × List Char)) :=
  let letters := text.takeWhile Char.isAlpha
  match text.dropWhile Char.isAlpha with
  | mark :: rest =>
      if mark = '\'' || mark = '"' then
        some do
          let (raw, octets) ← quotation? letters
          let (triple, rest) := match rest with
            | a :: b :: behind => if a = mark && b = mark then (true, behind) else (false, rest)
            | _ => (false, rest)
          let rest ← Quotation.scan ⟨mark, triple, raw, octets⟩ 0 false rest
          some (.quoted octets, rest)
      else none
  | [] => none

/-- The rest behind the end of a list: its bracket, or the end of all. -/
def ending? (close : Option Char) (text : List Char) : Option (List Char) :=
  match close with
  | some c => Text.dropStart? [c] text
  | none => if (skipGaps true false text).isEmpty then some [] else none

def constants : List (List Char) :=
  ["True".toList, "False".toList, "None".toList]

/-- A constant, or the empty set, which is written as a call. -/
def scanName (inside : Bool) (text : List Char) : Option (Argument × List Char) :=
  let name := text.takeWhile isNameChar
  let rest := text.dropWhile isNameChar
  if constants.any (· = name) then some (constant, rest)
  else if name = "set".toList then
    match skipGaps inside false rest with
    | '(' :: rest =>
        (Text.dropStart? [')'] (skipGaps true false rest)).map fun rest => (collection, rest)
    | _ => none
  else none

/-- The row of some arguments; one alone in brackets is itself. -/
def ofRow (comma : Bool) : List Argument → Argument
  | [a] => if comma then row a.isFixed else a
  | items => row (items.all isFixed)

mutual

def readAtom (inside : Bool) : (fuel : Nat) → List Char → Option (Argument × List Char)
  | 0, _ => none
  | fuel + 1, text =>
      match text with
      | '(' :: rest =>
          (readItems fuel true (some ')') false rest).map fun (items, comma, rest) =>
            (ofRow comma items, rest)
      | '[' :: rest =>
          (readItems fuel true (some ']') false rest).map fun (_, _, rest) => (collection, rest)
      | '\x7b' :: rest =>
          (readMembers fuel none rest).map fun rest => (collection, rest)
      | '.' :: '.' :: '.' :: rest => some (constant, rest)
      | c :: _ =>
          match scanText? text with
          | some none => none
          | some (some (a, rest)) => joinTexts inside fuel a rest
          | none =>
              if c.isDigit || c = '.' then scanNumber text else scanName inside text
      | [] => none

def joinTexts (inside : Bool) : (fuel : Nat) → Argument → List Char →
    Option (Argument × List Char)
  | 0, _, _ => none
  | fuel + 1, a, text =>
      match scanText? (skipGaps inside false text) with
      | none => some (a, text)
      | some none => none
      | some (some (b, rest)) => if a = b then joinTexts inside fuel a rest else none

def readArgument (inside : Bool) : (fuel : Nat) → List Char → Option (Argument × List Char)
  | 0, _ => none
  | fuel + 1, text => do
      let (first, rest) ←
        if text.head? = some '+' || text.head? = some '-' then
          (readAtom inside fuel (skipGaps inside false (text.drop 1))).bind fun (a, rest) =>
            a.behindSign?.map fun a => (a, rest)
        else readAtom inside fuel text
      let behind := skipGaps inside false rest
      if behind.head? = some '+' || behind.head? = some '-' then
        let (second, rest) ← readAtom inside fuel (skipGaps inside false (behind.drop 1))
        (sum? first second).map fun a => (a, rest)
      else some (first, rest)

def readItems : (fuel : Nat) → (inside : Bool) → (close : Option Char) → (comma : Bool) →
    List Char → Option (List Argument × Bool × List Char)
  | 0, _, _, _, _ => none
  | fuel + 1, inside, close, comma, text =>
      let text := skipGaps inside false text
      match ending? close text with
      | some rest => some ([], comma, rest)
      | none => do
          let (item, rest) ← readArgument inside fuel text
          let rest := skipGaps inside false rest
          match ending? close rest, rest with
          | some rest, _ => some ([item], comma, rest)
          | none, ',' :: rest =>
              (readItems fuel inside close true rest).map fun (items, comma, rest) =>
                (item :: items, comma, rest)
          | none, _ => none

/-- The members of a set or a table, whose keys have texts behind colons; the first member tells
which of the two it is. -/
def readMembers : (fuel : Nat) → (keyed : Option Bool) → List Char → Option (List Char)
  | 0, _, _ => none
  | fuel + 1, keyed, text =>
      match skipGaps true false text with
      | '\x7d' :: rest => some rest
      | text => do
          let (member, rest) ← readArgument true fuel text
          if !member.isFixed then none
          else
            let rest := skipGaps true false rest
            let colon := rest.head? = some ':'
            if keyed.any (· != colon) then none
            else
              let rest ←
                if colon then
                  (readArgument true fuel (skipGaps true false (rest.drop 1))).map Prod.snd
                else some rest
              match skipGaps true false rest with
              | ',' :: rest => readMembers fuel (some colon) rest
              | '\x7d' :: rest => some rest
              | _ => none

end

def accepts (text : List Char) : Bool :=
  if '\x00' ∈ text then false
  else
    match readItems (2 * text.length + 4) false none false
        (skipGaps true false (text.dropWhile fun c => c = ' ' || c = '\t')) with
    | some (items, _, _) => !items.isEmpty
    | none => false

end Argument

end TableServer.Console
