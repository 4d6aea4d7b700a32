import TableServer.Filter.Basic
import TableServer.Filter.Operator
import TableServer.Grammar.Literal
import TableServer.Value.Printer

/-! Tests from an operator and the literal behind it. A literal that the operator does not
accept fails the request at once. -/
namespace TableServer.Test

def readBound (literal : List Char) : Outcome Bound :=
  match Instant.read? literal with
  | some i => .ok (.instant i)
  | none =>
      match Number.read? literal with
      | some n => .ok (.number n)
      | none =>
          .error (.service ((ServiceError.malformed
            ("Unsupported value \"" ++ String.ofList literal ++
              "\" for an ordering comparison")).withHint
                "gt/gte/lt/lte compare dates or numbers only"))

def readIsNull (literal : List Char) : Outcome Test :=
  if Text.lower literal = "null".toList then .ok .isNull
  else .error (.service ((ServiceError.malformed
    ("Unsupported \"is\" value \"" ++ String.ofList literal ++ "\"")).withHint
      "only is.null is supported"))

def readOneOf (literal : List Char) : Outcome Test := do
  let body ← Grammar.unwrap '(' ')' "in" literal
  let texts ← Grammar.listItems body
  return .oneOf texts

/-- The JSON value of a literal, or nothing when it is not well formed. Only an integer that is
too long fails. -/
def decodeLiteral (literal : List Char) : Outcome (Option Value) :=
  match Value.read (.ofChars literal) with
  | .ok v => .ok (some v)
  | .error (.malformed ..) => .ok none
  | .error (.integerTooLong digits) => .error (.fault (.integer (.tooLong digits) literal))

def readCollection (literal : List Char) : Outcome Collection :=
  let literal := Text.trim literal
  if literal = ['\x7b', '\x7d'] then .ok ⟨some [], some []⟩
  else do
    match ← decodeLiteral literal with
    | some (.array items) => return ⟨some (items.map Value.text), none⟩
    | some (.object members) => return ⟨none, some members⟩
    | _ =>
        let body ← Grammar.unwrap '\x7b' '\x7d' "array operators" literal
        let texts ← Grammar.listItems body
        return ⟨some texts, none⟩

def readSearch (literal : List Char) : Outcome Test :=
  match searchTerms literal with
  | [] => .error (.malformed ("Empty text search query \"" ++ String.ofList literal ++ "\""))
  | terms => .ok (.search terms)

def readAgrees (literal : List Char) : Outcome Test := do
  match ← decodeLiteral literal with
  | some (.object members) => return .agrees members
  | _ =>
      .error (.malformed ("match expects a JSON object, got \"" ++ String.ofList literal ++ "\""))

def read (operator : Operator) (literal : List Char) : Outcome Test :=
  match operator with
  | .eq => .ok (.equals (String.ofList literal))
  | .neq => .ok (.differs (String.ofList literal))
  | .gt => (readBound literal).map (.compares .above)
  | .gte => (readBound literal).map (.compares .least)
  | .lt => (readBound literal).map (.compares .below)
  | .lte => (readBound literal).map (.compares .most)
  | .like => .ok (.like (Pattern.read literal))
  | .ilike => .ok (.likeFolded (Pattern.read literal))
  | .isNull => readIsNull literal
  | .oneOf => readOneOf literal
  | .contains => (readCollection literal).map .contains
  | .containedBy => (readCollection literal).map .containedBy
  | .overlaps => (readCollection literal).map .overlaps
  | .search => readSearch literal
  | .agrees => readAgrees literal

def operator : Test → Operator
  | equals _ => .eq
  | differs _ => .neq
  | compares .above _ => .gt
  | compares .least _ => .gte
  | compares .below _ => .lt
  | compares .most _ => .lte
  | like _ => .like
  | likeFolded _ => .ilike
  | isNull => .isNull
  | oneOf _ => .oneOf
  | contains _ => .contains
  | containedBy _ => .containedBy
  | overlaps _ => .overlaps
  | search _ => .search
  | agrees _ => .agrees

end TableServer.Test
