import TableServer.Entries
import TableServer.Http.Address

/-! Cookies: short texts that a server leaves with a client, which sends them back to the domain and
below the path that they are for. -/
namespace TableServer

structure Cookie where
  name : String
  text : Option String
  path : List Char
  secure : Bool

/-- Cookies by domain, by path and by name. -/
abbrev CookieJar := Entries (Entries (Entries Cookie))

namespace Cookie

/-- What is told of a cookie behind its name. A cookie whose time is over is dropped; `lasts` is set
where that is told in seconds, which counts before a date. -/
structure Attributes where
  domain : Option (List Char) := none
  path : Option (List Char) := none
  secure : Option Bool := none
  ended : Option Bool := none
  lasts : Bool := false
  version : Option Nat := none

def readPart (part : List Char) : List Char × Option (List Char) :=
  match Text.cut? '=' part with
  | some (name, text) => (Text.trim name, some (Text.trim text))
  | none => (Text.trim part, none)

/-- The first four figures in a row, which are the year of a date. -/
def yearOf? (text : List Char) : Option Nat :=
  let figures := text.map fun c => if c.isDigit then c else ' '
  ((Text.words figures).find? fun run => run.length = 4).map fun run =>
    Number.ofDigits (Number.digitValues run)

/-- Dates of earlier years are past. -/
def presentYear : Nat := 2026

def Attributes.last (a : Attributes) (seconds : List Char) : Option Attributes :=
  match Number.readInteger seconds with
  | .error _ => none
  | .ok n => some { a with lasts := true, ended := some (decide (n ≤ 0)) }

/-- Takes the date up to which a cookie lasts, unless a time has been told. -/
def Attributes.expire (a : Attributes) (date : List Char) : Attributes :=
  match a.ended, yearOf? date with
  | none, some year => { a with ended := some (decide (year < presentYear)) }
  | _, _ => a

def Attributes.readVersion (a : Attributes) (text : List Char) : Option Attributes :=
  if text = ['0'] then some { a with version := some 0 }
  else if text = ['1'] then some { a with version := some 1 }
  else none

/-- Adds an attribute, of which the first counts; none if it spoils the cookie. -/
def Attributes.add (a : Attributes) (part : List Char × Option (List Char)) : Option Attributes :=
  match String.ofList (Text.lower part.1) with
  | "domain" =>
      if a.domain.isSome then some a
      else part.2.map fun text => { a with domain := some (Text.lower text) }
  | "path" => if a.path.isSome then some a else part.2.map fun text => { a with path := some text }
  | "secure" => some { a with secure := a.secure.or (some (part.2 != some [])) }
  | "max-age" => part.2.bind a.last
  | "expires" => some (part.2.elim a a.expire)
  | "version" => if a.version.isSome then some a else part.2.bind a.readVersion
  | _ => some a

/-- Reads a header: a name with a text, and attributes behind semicolons. -/
def read? (header : String) : Option (String × Option String × Attributes) :=
  match (Text.splitOn ';' header.toList).map readPart with
  | ([], _) :: _ => none
  | (name, text) :: parts =>
      ((parts.filter fun p => !p.1.isEmpty).foldlM Attributes.add {}).map fun a =>
        (String.ofList name, text.map String.ofList, a)
  | [] => none

def isPathSafe (c : Char) : Bool :=
  c.isAlphanum || c ∈ "_.-~%/;:@&=+$,!*'()".toList

def pathOf (a : Address) : List Char :=
  Escape.encode isPathSafe (if a.path.isEmpty then ['/'] else a.path)

/-- The path up to its last slash, which a cookie is for that names no path. The slash belongs to
it in version one. -/
def folderOf (version : Nat) (path : List Char) : List Char :=
  let folder := ((path.reverse.dropWhile (· ≠ '/')).drop (1 - version)).reverse
  if folder.isEmpty then ['/'] else folder

/-- The domain of a host; a host without a dot is a local one. -/
def domainOf (a : Address) : List Char :=
  let host := if ':' ∈ a.host then '[' :: a.host ++ [']'] else a.host
  if '.' ∈ host then host else host ++ ".local".toList

def dotted (domain : List Char) : List Char :=
  if domain.head? = some '.' then domain else '.' :: domain

/-- Whether a host may leave a cookie for a domain: the domain is above it and has an inner dot. -/
def mayName (host domain : List Char) : Bool :=
  ('.' ∈ domain.drop 1 || ".local".toList.isSuffixOf host) && domain.isSuffixOf (dotted host)

def isBelow (path folder : List Char) : Bool :=
  path = folder || (folder.isPrefixOf path &&
    (folder.getLast? = some '/' || (path.drop folder.length).head? = some '/'))

def isFor (a : Address) (c : Cookie) : Bool :=
  isBelow (pathOf a) c.path &&
    (!c.secure || a.scheme = "https".toList || a.scheme = "wss".toList)

def sent (c : Cookie) : String :=
  c.text.elim c.name fun text => c.name ++ "=" ++ text

end Cookie

namespace CookieJar

def change (domain path : String) (f : Entries Cookie → Entries Cookie) (jar : CookieJar) :
    CookieJar :=
  let paths := (Entries.find? domain jar).getD []
  Entries.put domain (Entries.put path (f ((Entries.find? path paths).getD [])) paths) jar

def take (a : Address) (header : String) (jar : CookieJar) : CookieJar :=
  match Cookie.read? header with
  | none => jar
  | some (name, text, attributes) =>
      let host := Cookie.domainOf a
      let domain := attributes.domain.elim host Cookie.dotted
      let told := attributes.path.getD []
      let path :=
        if told.isEmpty then Cookie.folderOf (attributes.version.getD 0) (Cookie.pathOf a)
        else Escape.encode Cookie.isPathSafe told
      let key := String.ofList domain
      let pathKey := String.ofList path
      if attributes.ended = some true then jar.change key pathKey (Entries.erase name)
      else if attributes.domain.isNone || Cookie.mayName host domain then
        jar.change key pathKey (Entries.put name ⟨name, text, path, attributes.secure = some true⟩)
      else jar

/-- The cookies for an address, those of longer paths first. -/
def cookiesFor (a : Address) (jar : CookieJar) : List Cookie :=
  let host := Cookie.dotted (Cookie.domainOf a)
  let near := jar.filter fun d => (Cookie.dotted d.1.toList).isSuffixOf host
  let found := near.flatMap fun d => d.2.flatMap fun p => p.2.map Prod.snd
  (found.filter (Cookie.isFor a)).mergeSort fun c d => d.path.length ≤ c.path.length

def header? (a : Address) (jar : CookieJar) : Option String :=
  match jar.cookiesFor a with
  | [] => none
  | found => some ("; ".intercalate (found.map Cookie.sent))

end CookieJar

end TableServer
