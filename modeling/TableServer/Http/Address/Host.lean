import TableServer.Http.Domain.Name
import TableServer.Http.Escape
import TableServer.Number.Reader
import TableServer.Text.Case

/-! Hosts of addresses: numbers of a network in either version, names in ASCII, and names in
characters of all scripts, which are put into ASCII. -/
namespace TableServer.Host

/-- Whether a character may follow the part of four groups of figures that has been read; even
places ask for the first figure of a group, odd ones are in it. A group ends at any character. -/
def groupSteps (c : Char) (place : Nat) : List Nat :=
  if place % 2 = 0 then if c.isDigit then [place + 1] else []
  else (if c.isDigit then [place] else []) ++ (if place < 7 then [place + 1] else [])

def isNumeric (text : List Char) : Bool :=
  (text.foldl (fun places c => (places.flatMap (groupSteps c)).eraseDups) [0]).contains 7

/-- A part of an address in version four: a number up to 255 without leading zeros. -/
def isOctetText (part : List Char) : Bool :=
  !part.isEmpty && part.all Char.isDigit && part.length ≤ 3 &&
    (part.head? != some '0' || part.length = 1) &&
    Number.ofDigits (Number.digitValues part) ≤ 255

def isVersion4 (text : List Char) : Bool :=
  let parts := Text.splitOn '.' text
  parts.length = 4 && parts.all isOctetText

def isHexFigure (c : Char) : Bool :=
  c.isDigit || ('a' ≤ c && c ≤ 'f') || ('A' ≤ c && c ≤ 'F')

def isGroup (part : List Char) : Bool :=
  !part.isEmpty && part.length ≤ 4 && part.all isHexFigure

/-- The places of empty parts that have parts on both sides. -/
def innerGaps (parts : List (List Char)) : List Nat :=
  (List.range (parts.length - 1)).filter fun i => 0 < i && parts[i]? = some []

/-- The groups before or behind the gap. An empty group at the edge stands only next to it. -/
def sideGroups? (edgeFirst : Bool) (side : List (List Char)) : Option (List (List Char)) :=
  let edge := if edgeFirst then side.head? else side.getLast?
  if edge = some [] then if side.length = 1 then some [] else none else some side

/-- Whether parts are the eight groups of an address in version six; one gap stands for the groups
that are missing. -/
def areGroups (parts : List (List Char)) : Bool :=
  if parts.length < 3 || 9 < parts.length then false
  else
    match innerGaps parts with
    | [] => parts.length = 8 && parts.all isGroup
    | [gap] =>
        match sideGroups? true (parts.take gap), sideGroups? false (parts.drop (gap + 1)) with
        | some high, some low =>
            high.length + low.length < 8 && high.all isGroup && low.all isGroup
        | _, _ => false
    | _ => false

def expandVersion4? (parts : List (List Char)) : Option (List (List Char)) :=
  match parts.getLast? with
  | some last =>
      if '.' ∈ last then
        if isVersion4 last && 3 ≤ parts.length then some (parts.dropLast ++ [['0'], ['0']])
        else none
      else some parts
  | none => none

/-- An address in version six may name a zone behind a percent sign. -/
def isVersion6 (text : List Char) : Bool :=
  let groups (text : List Char) : Bool := (expandVersion4? (Text.splitOn ':' text)).any areGroups
  match Text.cut? '%' text with
  | none => groups text
  | some (address, zone) => groups address && !zone.isEmpty && '%' ∉ zone

def isSafe (c : Char) : Bool :=
  c.isAlphanum || c ∈ "-._~!$&'()*+,;=\"`\x7b\x7d%|\\".toList

def bracketed? (text : List Char) : Option (List Char) :=
  (Text.dropStart? ['['] text).bind (Text.dropEnd? [']'])

def encode? (text : List Char) : Option (List Char) :=
  if text.isEmpty then some []
  else if isNumeric text then if isVersion4 text then some text else none
  else
    match bracketed? text with
    | some inner => if isVersion6 inner then some inner else none
    | none =>
        if text.all Domain.Punycode.isBasic then
          some (Escape.encode isSafe (text.map Char.toLower))
        else
          match Domain.encode (Text.lower text) with
          | .ok name => some name
          | .error _ => none

def name (host : List Char) : Except DomainFault (List Char) :=
  if Domain.codeMark.isPrefixOf host then Domain.decode host else .ok host

end TableServer.Host
