import TableServer.Console.Cells
import TableServer.Console.Emoji.PicturesA
import TableServer.Console.Emoji.PicturesC
import TableServer.Console.Emoji.PicturesF
import TableServer.Console.Emoji.PicturesI
import TableServer.Console.Emoji.PicturesN
import TableServer.Console.Emoji.PicturesS
import TableServer.Console.Emoji.Toned
import TableServer.Text.Blank
import TableServer.Text.Case
import TableServer.Text.Parts

/-! Pictures in console texts: a name between two colons stands for a picture. A name that no
picture has stays as it is. -/
namespace TableServer.Console

def partner? (key : List Char) : List (List Char) → Option (List Char)
  | other :: word :: rest => if other = key then some word else partner? key rest
  | _ => none

def pictureTables : List (List (List Char)) :=
  [picturesA, picturesC, picturesF, picturesI, picturesN, picturesS].map fun table =>
    Text.words table.toList

def plainPicture? (name : List Char) : Option (List Char) :=
  pictureTables.findSome? (partner? name)

def tones : List (String × Char) :=
  [("medium-light", '🏼'), ("medium-dark", '🏾'), ("light", '🏻'), ("medium", '🏽'), ("dark", '🏿')]

/-- Puts a tone behind the first character, in the place of a picture mark. -/
def withTone (tone : Char) : List Char → List Char
  | c :: rest =>
      c :: tone :: match rest with
        | '\uFE0F' :: rest => rest
        | rest => rest
  | [] => []

def tonedPicture? (name : List Char) : Option (List Char) :=
  tones.findSome? fun (toneName, tone) =>
    match Text.dropEnd? ("_" ++ toneName ++ "_skin_tone").toList name with
    | none => none
    | some base =>
        if (Text.words tonedNames.toList).any (· = base) then
          (plainPicture? base).map (withTone tone)
        else none

def pictureOf? (name : List Char) : Option (List Char) :=
  let name := Text.lower name
  (plainPicture? name).or (tonedPicture? name)

def textMark : Char := '\uFE0E'

def readCode (code : List Char) : List Char × List Char :=
  match Text.dropEnd? "-text".toList code, Text.dropEnd? "-emoji".toList code with
  | some name, _ => (name, [textMark])
  | none, some name => (name, [pictureMark])
  | none, none => (code, [])

def showCode (code : List Char) : List Char :=
  let (name, mark) := readCode code
  match pictureOf? name with
  | some picture => picture ++ mark
  | none => ':' :: code ++ [':']

/-- The code at the start of a text, which ends at a colon and holds no blank. -/
def code? (text : List Char) : Option (List Char) :=
  match Text.cut? ':' text with
  | some (code, _) => if code.any Text.isBlank then none else some code
  | none => none

/-- Replaces codes; the next `skip` characters belong to a code that has been replaced. -/
def showCodesFrom : (skip : Nat) → List Char → List Char
  | _, [] => []
  | skip + 1, _ :: rest => showCodesFrom skip rest
  | 0, c :: rest =>
      match if c = ':' then code? rest else none with
      | some code => showCode code ++ showCodesFrom (code.length + 1) rest
      | none => c :: showCodesFrom 0 rest

def showCodes (text : List Char) : List Char :=
  showCodesFrom 0 text

end TableServer.Console
