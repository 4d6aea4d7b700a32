import TableServer.Console.Emoji
import TableServer.Console.Markup.Argument
import TableServer.Console.Style
import TableServer.Text.Word

/-! Markup of console texts: a tag is an opening bracket, a character that starts tags, and all up
to the closing bracket. Tags style the text and are not shown; a backslash before a tag makes it
text. A tag that starts with a slash closes the last open one of its name. -/
namespace TableServer.Console

inductive MarkupFault where
  | tag
  | style (fault : Fault)

def startsTag (c : Char) : Bool :=
  ('a' ≤ c && c ≤ 'z') || c = '#' || c = '/' || c = '@'

/-- What stands between the brackets of the tag at the start of a text. It holds no second opening
bracket. -/
def tag? : List Char → Option (List Char)
  | '[' :: c :: rest =>
      if startsTag c then
        match Text.cut? ']' (c :: rest) with
        | some (inner, _) => if '[' ∈ inner then none else some inner
        | none => none
      else none
  | _ => none

structure Tag where
  name : List Char
  parameters : Option (List Char)

namespace Tag

def ofInner (inner : List Char) : Tag :=
  match Text.cut? '=' inner with
  | some (name, parameters) => ⟨name, some parameters⟩
  | none => ⟨inner, none⟩

def style (t : Tag) : List Char :=
  t.parameters.elim t.name fun p => t.name ++ ' ' :: p

def isHandler (t : Tag) : Bool :=
  t.name.head? = some '@'

/-- The argument in the parameters of a handler: what stands in brackets behind its name, if its
name is all before them. -/
def argumentOf (parameters : List Char) : List Char :=
  match parameters.dropWhile fun c => Text.isWord c || c = '.' with
  | [] => ['(', ')']
  | rest =>
      if rest.head? = some '(' && rest.getLast? = some ')' && '\n' ∉ rest then rest
      else parameters

/-- Whether the parameters of a handler spell its argument; it may have none. -/
def hasArgument (t : Tag) : Bool :=
  match t.parameters with
  | none => true
  | some [] => true
  | some parameters => Argument.accepts (argumentOf (Text.trim parameters))

end Tag

inductive Piece where
  | text (shown : List Char)
  | tag (t : Tag)

namespace Piece

def slashes (count : Nat) : List Char :=
  List.replicate count '\\'

def ofText (reversed : List Char) : List Piece :=
  if reversed.isEmpty then [] else [text reversed.reverse]

/-- A tag behind backslashes: two of them are shown as one, an odd one makes the tag text. -/
def ofTag (count : Nat) (inner : List Char) : List Piece :=
  ofText (slashes (count / 2)) ++
    [if count % 2 = 1 then text ('[' :: inner ++ [']']) else tag (Tag.ofInner inner)]

/-- The parts of a text behind `before`, which is reversed, and backslashes; `skip` characters
belong to a tag that has been dealt with. -/
def listFrom (skip count : Nat) (before : List Char) : List Char → List Piece
  | [] => ofText (slashes count ++ before)
  | c :: rest =>
      match skip with
      | skip + 1 => listFrom skip 0 [] rest
      | 0 =>
          if c = '\\' then listFrom 0 (count + 1) before rest
          else
            match tag? (c :: rest) with
            | none => listFrom 0 0 (c :: slashes count ++ before) rest
            | some inner =>
                ofText before ++ ofTag count inner ++ listFrom (inner.length + 1) 0 [] rest

def list (markup : List Char) : List Piece :=
  listFrom 0 0 [] markup

end Piece

def takeTag? (name : List Char) : List Tag → Option (Tag × List Tag)
  | [] => none
  | t :: rest =>
      if t.name = name then some (t, rest)
      else (takeTag? name rest).map fun p => (p.1, t :: p.2)

/-- A text as it is put together: the parts that are shown, the tags that are open, the last one
first, and the styles that have been given. -/
structure Rendering where
  shown : List (List Char) := []
  opened : List Tag := []
  styles : List (List Char) := []

namespace Rendering

def dropEscapes : List Char → List Char
  | '\\' :: '[' :: rest => '[' :: dropEscapes rest
  | c :: rest => c :: dropEscapes rest
  | [] => []

def addText (r : Rendering) (text : List Char) : Rendering :=
  { r with shown := showCodes (dropEscapes text) :: r.shown }

def openTag (r : Rendering) (t : Tag) : Except MarkupFault Rendering :=
  match Style.normalize t.name with
  | .error f => .error (.style f)
  | .ok name => .ok { r with opened := { t with name := name } :: r.opened }

/-- Ends a tag. The argument of a handler is read here. -/
def finish (r : Rendering) (t : Tag) (opened : List Tag) : Except MarkupFault Rendering :=
  if t.isHandler then if t.hasArgument then .ok { r with opened := opened } else .error .tag
  else .ok { r with opened := opened, styles := t.style :: r.styles }

/-- Closes the last tag of a name, or the last one of all. -/
def closeTag (r : Rendering) (name : List Char) : Except MarkupFault Rendering :=
  match Text.trim name, r.opened with
  | [], [] => .error .tag
  | [], t :: rest => r.finish t rest
  | name, opened =>
      match Style.normalize name with
      | .error f => .error (.style f)
      | .ok name =>
          match takeTag? name opened with
          | some (t, rest) => r.finish t rest
          | none => .error .tag

def add (r : Rendering) : Piece → Except MarkupFault Rendering
  | .text t => .ok (r.addText t)
  | .tag t =>
      match t.name with
      | '/' :: name => r.closeTag name
      | _ => r.openTag t

/-- Characters that move the cursor are not shown. -/
def isMove (c : Char) : Bool :=
  c ∈ ['\x07', '\x08', '\x0b', '\x0c', '\r']

/-- Styles that cannot be read are passed over. -/
def checkStyle (style : List Char) : Except MarkupFault Unit :=
  match Style.read style with
  | .error f => .error (.style f)
  | .ok _ => .ok ()

def text (r : Rendering) : Except MarkupFault (List Char) :=
  ((r.opened.map Tag.style ++ r.styles).forM checkStyle).map fun _ =>
    r.shown.reverse.flatten.filter fun c => !isMove c

end Rendering

def render (markup : List Char) : Except MarkupFault (List Char) :=
  ((Piece.list markup).foldlM Rendering.add {}).bind Rendering.text

def protectTags (skip count : Nat) : List Char → List Char
  | [] => Piece.slashes count
  | c :: rest =>
      match skip with
      | skip + 1 => c :: protectTags skip 0 rest
      | 0 =>
          if c = '\\' then protectTags 0 (count + 1) rest
          else
            match tag? (c :: rest) with
            | none => Piece.slashes count ++ c :: protectTags 0 0 rest
            | some inner =>
                Piece.slashes (2 * count + 1) ++ c :: protectTags (inner.length + 1) 0 rest

/-- A text whose tags are shown when it stands in markup. One backslash at its end is doubled, two
of them are not. -/
def protect (text : List Char) : List Char :=
  let guarded := protectTags 0 0 text
  match guarded.reverse with
  | '\\' :: '\\' :: _ => guarded
  | '\\' :: _ => guarded ++ ['\\']
  | _ => guarded

end TableServer.Console
