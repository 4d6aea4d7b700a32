import TableServer.Number.Reader
import TableServer.Text.Codes

/-! Faults of JSON texts. A fault holds its cause and the text from the place of the fault on;
its wording gives the place by line, column and offset. Blanks between tokens are the space, the
tab, the line feed and the carriage return. -/
namespace TableServer

namespace Value

inductive SyntaxFault where
  | expectedValue
  | expectedName
  | expectedColon
  | expectedComma
  | unterminatedString
  | controlCharacter
  | unknownEscape
  | unicodeEscape
  | extraData
  | byteOrderMark
deriving DecidableEq

inductive ReadFault where
  | malformed (cause : SyntaxFault) (rest : Codes)
  | integerTooLong (digits : Nat)
deriving DecidableEq

def SyntaxFault.message : SyntaxFault → String
  | expectedValue => "Expecting value"
  | expectedName => "Expecting property name enclosed in double quotes"
  | expectedColon => "Expecting ':' delimiter"
  | expectedComma => "Expecting ',' delimiter"
  | unterminatedString => "Unterminated string starting at"
  | controlCharacter => "Invalid control character at"
  | unknownEscape => "Invalid \\escape"
  | unicodeEscape => "Invalid \\uXXXX escape"
  | extraData => "Extra data"
  | byteOrderMark => "Unexpected UTF-8 BOM (decode using utf-8-sig)"

/-- The line of a place is one more than the line feeds before it; its column counts from the
last of them. -/
def placeText (before : Codes) : String :=
  let line := before.count (.char '\n') + 1
  let column := (before.reverse.takeWhile (· ≠ .char '\n')).length + 1
  s!"line {line} column {column} (char {before.length})"

def tooLongMessage (digits : Nat) : String :=
  s!"Exceeds the limit ({Number.digitLimit} digits) for integer string conversion: " ++
    s!"value has {digits} digits; use sys.set_int_max_str_digits() to increase the limit"

def ReadFault.message (text : Codes) : ReadFault → String
  | malformed cause rest =>
      cause.message ++ ": " ++ placeText (text.take (text.length - rest.length))
  | integerTooLong digits => tooLongMessage digits

def isSpace (c : CodePoint) : Bool :=
  c = ' ' || c = '\t' || c = '\n' || c = '\r'

def skip (text : Codes) : Codes :=
  text.dropWhile isSpace

theorem length_skip_le (text : Codes) : (skip text).length ≤ text.length := by
  exact (List.dropWhile_sublist isSpace).length_le

end Value

end TableServer
