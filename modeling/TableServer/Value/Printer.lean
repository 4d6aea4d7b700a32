import TableServer.Value.Basic
import TableServer.Number.Text

/-! Written values: compact JSON for texts of values, spaced JSON for response bodies, indented
JSON for the console. Code points outside ASCII, surrogates among them, are written as they are. -/
namespace TableServer.Value

structure Separators where
  comma : String
  colon : String

def Separators.compact : Separators := ⟨",", ":"⟩

def Separators.spaced : Separators := ⟨", ", ": "⟩

def hexDigit (n : Nat) : Char :=
  if n < 10 then Char.ofNat (48 + n) else Char.ofNat (87 + n)

/-- Quotes, backslashes and controls are escaped. -/
def escapeChar (c : Char) : List Char :=
  if c = '"' then ['\\', '"']
  else if c = '\\' then ['\\', '\\']
  else if c = '\n' then ['\\', 'n']
  else if c = '\r' then ['\\', 'r']
  else if c = '\t' then ['\\', 't']
  else if c = '\x08' then ['\\', 'b']
  else if c = '\x0c' then ['\\', 'f']
  else if c.toNat < 32 then ['\\', 'u', '0', '0', hexDigit (c.toNat / 16), hexDigit (c.toNat % 16)]
  else [c]

def escapeCode : CodePoint → Codes
  | .char c => .ofChars (escapeChar c)
  | c => [c]

def quote (text : Codes) : Codes :=
  .char '"' :: text.flatMap escapeCode ++ [.char '"']

def scalarText : Value → Codes
  | bool true => "true"
  | bool false => "false"
  | number n => n.text .json
  | string s => quote s
  | _ => "null"

mutual

def print (sep : Separators) : Value → Codes
  | array items => "[" ++ printItems sep items ++ "]"
  | object members => "\x7b" ++ printMembers sep members ++ "\x7d"
  | null => scalarText null
  | bool b => scalarText (bool b)
  | number n => scalarText (number n)
  | string s => scalarText (string s)
termination_by structural v => v

def printItems (sep : Separators) : List Value → Codes
  | [] => ""
  | v :: rest => print sep v ++ (if rest.isEmpty then "" else sep.comma) ++ printItems sep rest
termination_by structural vs => vs

def printMembers (sep : Separators) : Members → Codes
  | [] => ""
  | (k, v) :: rest =>
      quote k ++ sep.colon ++ print sep v ++ (if rest.isEmpty then "" else sep.comma) ++
        printMembers sep rest
termination_by structural ms => ms

end

def compact (v : Value) : Codes :=
  print .compact v

def spaced (v : Value) : Codes :=
  print .spaced v

def indentation (depth : Nat) : Codes :=
  Codes.ofChars ('\n' :: List.replicate (2 * depth) ' ')

mutual

/-- One item a line, two spaces a level; empty containers stay on their line. -/
def printIndented (depth : Nat) : Value → Codes
  | array items =>
      if items.isEmpty then "[]"
      else "[" ++ indentItems (depth + 1) items ++ indentation depth ++ "]"
  | object members =>
      if members.isEmpty then "\x7b\x7d"
      else "\x7b" ++ indentMembers (depth + 1) members ++ indentation depth ++ "\x7d"
  | null => scalarText null
  | bool b => scalarText (bool b)
  | number n => scalarText (number n)
  | string s => scalarText (string s)
termination_by structural v => v

def indentItems (depth : Nat) : List Value → Codes
  | [] => ""
  | v :: rest =>
      indentation depth ++ printIndented depth v ++ (if rest.isEmpty then "" else ",") ++
        indentItems depth rest
termination_by structural vs => vs

def indentMembers (depth : Nat) : Members → Codes
  | [] => ""
  | (k, v) :: rest =>
      indentation depth ++ quote k ++ ": " ++ printIndented depth v ++
        (if rest.isEmpty then "" else ",") ++ indentMembers depth rest
termination_by structural ms => ms

end

def indented (v : Value) : Codes :=
  printIndented 0 v

/-- The text of a value in a query string: strings bare, numbers with the plain names of the
non-finite ones, containers as compact JSON. -/
def text : Value → Codes
  | null => "null"
  | bool b => if b then "true" else "false"
  | number n => n.text .plain
  | string s => s
  | array items => compact (array items)
  | object members => compact (object members)

end TableServer.Value
