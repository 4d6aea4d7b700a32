import TableServer.Http.Domain.Label

/-! Domain names: labels between dots, the last of which may be followed by a dot. -/
namespace TableServer.Domain

def isDot (c : Char) : Bool :=
  c = '.' || c = '\u3002' || c = '\uFF0E' || c = '\uFF61'

def labels : List Char → List (List Char)
  | [] => [[]]
  | c :: rest =>
      if isDot c then [] :: labels rest
      else
        match labels rest with
        | [] => [[c]]
        | label :: others => (c :: label) :: others

def mapLabels (turn : List Char → Except DomainFault (List Char)) (name : List Char) :
    Except DomainFault (List Char) := do
  if nameLimit < name.length then throw .nameTooLong
  let parts := labels name
  if parts = [[]] then throw .emptyName
  let ended := parts.getLast? = some []
  let turned ← (if ended then parts.dropLast else parts).mapM turn
  return List.intercalate ['.'] (if ended then turned ++ [[]] else turned)

def encode (name : List Char) : Except DomainFault (List Char) := do
  let written ← mapLabels writeLabel name
  let ended := written.getLast? = some '.'
  if (if ended then nameLimit else nameLimit - 1) < written.length then throw .nameTooLong
  return written

def decode (name : List Char) : Except DomainFault (List Char) :=
  mapLabels readLabel name

end TableServer.Domain
