import TableServer.Text.Case.LowerTable
import TableServer.Text.Case.UpperTable
import TableServer.Text.Case.SigmaTable
import TableServer.Text.Case.FoldTable

/-! Lower and upper case of texts in every script, and equality of characters when case is
ignored. A capital sigma becomes a final sigma at the end of a word. -/
namespace TableServer.Text

def lowerChar (c : Char) : Char :=
  lowerShifts.apply c

def capitalSigma : Char := 'Σ'

/-- Whether the nearest character that is not skipped is a letter with case. -/
def metByCased (text : List Char) : Bool :=
  match text.dropWhile caseIgnorableRuns.holds with
  | [] => false
  | c :: _ => casedRuns.holds c

/-- Lower-case form of one character between `before`, nearest first, and `after`. -/
def lowerWithin (before : List Char) (c : Char) (after : List Char) : List Char :=
  if c = capitalSigma then
    if metByCased before && !metByCased after then ['ς'] else ['σ']
  else if c = 'İ' then ['i', '\u0307']
  else [lowerChar c]

def lowerFrom (before : List Char) : List Char → List Char
  | [] => []
  | c :: rest => lowerWithin before c rest ++ lowerFrom (c :: before) rest

def lower (text : List Char) : List Char :=
  lowerFrom [] text

def upperOf (c : Char) : List Char :=
  match upperExpansions.lookup c.toNat with
  | some codes => codes.map Char.ofNat
  | none => [upperShifts.apply c]

def upper (text : List Char) : List Char :=
  text.flatMap upperOf

/-- Equality of a pattern character with a text character when case is ignored. A character
without a partner in the other case equals itself only. -/
def sameFolded (pattern c : Char) : Bool :=
  if casePairedRuns.holds pattern then
    let p := lowerChar pattern
    let t := lowerChar c
    p == t || ((foldPartners.lookup p.toNat).getD []).contains t.toNat
  else pattern == c

end TableServer.Text
