import TableServer.Failure

/-! Shapes of answers: all rows, exactly one row, or at most one row. -/
namespace TableServer

inductive Shape where
  | list
  | single
  | maybeSingle
deriving DecidableEq

namespace Shape

def name : Shape → String
  | list => "list"
  | single => "single"
  | maybeSingle => "maybeSingle"

/-- Names that are not known mean a list. -/
def ofName (name : String) : Shape :=
  if name = "single" then single else if name = "maybeSingle" then maybeSingle else list

def refused (s : Shape) (count : Nat) : Failure :=
  .service ((ServiceError.ofKind (.shape s.name count)
    (toString count ++ " rows were found for " ++ s.name ++ " query") .none none).withDetails
      ("The result contains " ++ toString count ++ " rows"))

def resolve (s : Shape) (rows : List Value) : Outcome Value :=
  match s, rows with
  | list, rows => .ok (.array rows)
  | single, [row] => .ok row
  | single, rows => .error (refused single rows.length)
  | maybeSingle, [] => .ok .null
  | maybeSingle, [row] => .ok row
  | maybeSingle, rows => .error (refused maybeSingle rows.length)

end Shape

end TableServer
