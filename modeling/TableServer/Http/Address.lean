import TableServer.Http.Address.Host

/-! Addresses of resources: a scheme, an authority with a user, a host and a port, a path and a
query. Characters that have no place in a part are escaped; a fragment is dropped. -/
namespace TableServer

structure Address where
  scheme : List Char
  user : List Char
  host : List Char
  port : Option Int
  path : List Char
  query : Option (List Char)

namespace Address

def lengthLimit : Nat := 65536

def isControl (c : Char) : Bool :=
  c.toNat < 0x20 || c.toNat = 0x7F

def isQuerySafe (c : Char) : Bool :=
  0x20 < c.toNat && c.toNat < 0x7F && c ∉ ['"', '#', '<', '>']

def isPathSafe (c : Char) : Bool :=
  isQuerySafe c && c ∉ ['?', '`', '\x7b', '\x7d']

def isUserSafe (c : Char) : Bool :=
  isPathSafe c && c ∉ ['/', ';', '=', '@', '[', '\\', ']', '^', '|']

def isSchemeChar (c : Char) : Bool :=
  c.isAlphanum || c = '+' || c = '.' || c = '-'

def splitScheme (text : List Char) : List Char × List Char :=
  let scheme := if text.head?.any Char.isAlpha then text.takeWhile isSchemeChar else []
  match text.drop scheme.length with
  | ':' :: rest => (scheme, rest)
  | _ => ([], text)

def endsAuthority (c : Char) : Bool :=
  c = '/' || c = '?' || c = '#'

def splitAuthority : List Char → List Char × List Char
  | '/' :: '/' :: rest =>
      (rest.takeWhile fun c => !endsAuthority c, rest.dropWhile fun c => !endsAuthority c)
  | text => ([], text)

/-- The user before the last at sign, and the rest. -/
def splitUser (authority : List Char) : List Char × List Char :=
  match authority.reverse.span (· ≠ '@') with
  | (_, []) => ([], authority)
  | (rest, _ :: user) => (user.reverse, rest.reverse)

def splitHost (text : List Char) : List Char × List Char :=
  let bracketed := match text with
    | '[' :: _ => (text.reverse.dropWhile (· ≠ ']')).reverse
    | _ => []
  let host := if bracketed.isEmpty then text.takeWhile (· ≠ ':') else bracketed
  match text.drop host.length with
  | ':' :: port => (host, port)
  | port => (host, port)

def schemePorts : List (String × Int) :=
  [("ftp", 21), ("http", 80), ("https", 443), ("ws", 80), ("wss", 443)]

/-- The port that is named. The one that a scheme has anyway counts as none; a port that is no
number is a fault. -/
def readPort? (scheme port : List Char) : Option (Option Int) :=
  if port.isEmpty then some none
  else
    match Number.readInteger port with
    | .error _ => none
    | .ok n => some (if schemePorts.lookup (String.ofList scheme) = some n then none else some n)

def dropDots (done : List (List Char)) : List (List Char) → List (List Char)
  | [] => done.reverse
  | ['.'] :: rest => dropDots done rest
  | ['.', '.'] :: rest =>
      match done with
      | [] => dropDots done rest
      | [[]] => dropDots done rest
      | _ :: before => dropDots before rest
  | segment :: rest => dropDots (segment :: done) rest

def plainPath (path : List Char) : List Char :=
  List.intercalate ['/'] (dropDots [] (Text.splitOn '/' path))

def hasAuthority (a : Address) : Bool :=
  !a.user.isEmpty || !a.host.isEmpty || a.port.isSome

/-- Behind an authority a path is empty or starts with a slash. A path alone does not look like an
authority or a scheme. -/
def admits (a : Address) (path : List Char) : Bool :=
  if a.hasAuthority then path.isEmpty || path.head? = some '/'
  else if a.scheme.isEmpty then !(['/', '/'].isPrefixOf path) && path.head? != some ':'
  else true

/-- Gives a path and a query to an address; none if the path has no place there. -/
def withPath? (a : Address) (path : List Char) (query : Option (List Char)) : Option Address :=
  if a.admits path then
    let path := if !a.scheme.isEmpty || a.hasAuthority then plainPath path else path
    let query := query.map (Escape.encode isQuerySafe)
    some { a with path := Escape.encode isPathSafe path, query := query }
  else none

/-- Reads an address; none for one that is not valid. -/
def read? (text : List Char) : Option Address := do
  if lengthLimit < text.length || text.any isControl then none
  else
    let (scheme, rest) := splitScheme text
    let (authority, rest) := splitAuthority rest
    let resource := rest.takeWhile (· ≠ '#')
    let path := resource.takeWhile (· ≠ '?')
    let query := (Text.cut? '?' resource).map Prod.snd
    let (user, hostAndPort) := splitUser authority
    let (host, port) := splitHost hostAndPort
    let host ← Host.encode? host
    let port ← readPort? scheme port
    let user := Escape.encode isUserSafe user
    let a : Address := ⟨scheme.map Char.toLower, user, host, port, [], none⟩
    a.withPath? path query

/-- An address with a scheme and a host stands for itself. -/
def isAbsolute (a : Address) : Bool :=
  !a.scheme.isEmpty && !a.host.isEmpty

def ofHost (host : String) : Address :=
  ⟨"http".toList, [], host.toList, none, ['/'], none⟩

def resource (a : Address) : List Char :=
  (if a.path.isEmpty then ['/'] else a.path) ++ a.query.elim [] fun q => '?' :: q

/-- Puts a relative address behind the root of a server; none if it gets too long. -/
def below? (a root : Address) : Option Address :=
  let resource := '/' :: a.resource.dropWhile (· = '/')
  let path := resource.takeWhile (· ≠ '?')
  let query := (Text.cut? '?' resource).map Prod.snd
  if lengthLimit < path.length || lengthLimit < (query.getD []).length then none
  else root.withPath? path query

def resolve? (root : Address) (text : String) : Option Address :=
  (read? text.toList).bind fun a => if a.isAbsolute then some a else a.below? root

def place (a : Address) : String :=
  let host := if ':' ∈ a.host then '[' :: a.host ++ [']'] else a.host
  String.ofList host ++ a.port.elim "" fun p => ":" ++ toString p

end Address

end TableServer
