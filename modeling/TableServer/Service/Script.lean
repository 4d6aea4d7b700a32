import TableServer.Filter.Reader
import TableServer.Service.Handler

/-! Scripts: small programs for handlers. A script is given the parameters of a procedure or the
call of an edge function, works on the store and gives a reply. -/
namespace TableServer

inductive Raise where
  | telling (t : ServiceError.Telling)
  | fault (f : Fault)

/-- The failure that is raised. An error that cannot be made is a fault of its own. -/
def Raise.failure : Raise → Failure
  | telling t =>
      match ServiceError.tell t with
      | .ok e => .service e
      | .error f => .fault f
  | fault f => .fault f

inductive Argument where
  | parameters (v : Value)
  | call (c : Call)

def Argument.payload : Argument → Payload
  | parameters v => .value v
  | call c => c.body

abbrev FilterTexts := List (String × String)

/-- The filters joined; none of them means no predicate. -/
def FilterTexts.read (texts : FilterTexts) : Outcome (Option RowPredicate) :=
  (texts.mapM fun t => Filter.read t.1.toList t.2.toList).map fun filters =>
    (Filter.conjoin filters).map Filter.holds

inductive Script where
  | value (v : Value)
  | echo
  | key (name : String)
  | table (name : String)
  | count
  | append (table : String) (row : Value)
  | insert (table : String)
  | upsert (table : String)
  | update (table : String) (filters : FilterTexts)
  | delete (table : String) (filters : FilterTexts)
  | fail (raise : Raise)
  | sequence (steps : List Script)
  | octets (o : Text.Octets)
  | reverse
  | response (data : Script) (status : Int) (headers : Headers)

namespace Script

def hexText (o : Text.Octets) : String :=
  String.join (o.map Text.hexPair)

def echoed : Argument → Value
  | .parameters v => v
  | .call c =>
      .object [
        ("body", match c.body with
          | .value v => v
          | .octets o => .object [("hex", .string (hexText o))]),
        ("query", .object (c.query.map fun q => (q.1, .string q.2))),
        ("method", .string c.method)]

def member (name : String) : Payload → Except Fault Value
  | .octets _ => .error (.type .textKeyOnOctets)
  | .value (.object members) =>
      match Entries.find? ↑name members with
      | some v => .ok v
      | none => .error (.key name)
  | .value (.array _) => .error (.type .textKeyOnList)
  | .value (.string _) => .error (.type .textKeyOnText)
  | .value other => .error (.type (.noItems other.typeName))

def reversed : Payload → Except Fault Reply
  | .octets o => .ok (.octets o.reverse)
  | .value (.string s) => .ok (.value (.string s.reverse))
  | .value (.array items) => .ok (.value (.array items.reverse))
  | .value (.object _) => .error (.type .noRange)
  | .value other => .error (.type (.noItems other.typeName))

def written (refusal : String) : Payload → Outcome Value
  | .value v => .ok v
  | .octets _ => .error (Table.badData refusal)

def refusedRow : String := "expected an object, got bytes"

def refusedPatch : String := "update payload must be an object"

def rowsReply (effect : Effect (List Value)) : Effect Reply :=
  (effect.1.map fun rows => .value (.array rows), effect.2)

def still (s : Store) (o : Outcome Reply) : Effect Reply :=
  (o, s)

def write (name : String) (argument : Payload) (s : Store)
    (operation : Value → Effect (List Nat)) : Effect Reply :=
  match written refusedRow argument with
  | .error e => (.error e, s)
  | .ok v => rowsReply (Store.touched name (operation v))

def patch (name : String) (filters : FilterTexts) (argument : Payload) (s : Store) :
    Effect Reply :=
  match filters.read with
  | .error e => (.error e, s)
  | .ok predicate =>
      match written refusedPatch argument with
      | .error e => (.error e, s)
      | .ok v => rowsReply (Store.touched name (s.update name predicate v))

def remove (name : String) (filters : FilterTexts) (s : Store) : Effect Reply :=
  match filters.read with
  | .error e => (.error e, s)
  | .ok predicate => rowsReply (s.delete name predicate)

mutual

def run (argument : Argument) : Script → Store → Effect Reply
  | value v, s => (.ok (.value v), s)
  | echo, s => (.ok (.value (echoed argument)), s)
  | key name, s => still s (((member name argument.payload).map .value).mapError .fault)
  | table name, s =>
      match Entries.find? name s.tables with
      | some rows => (.ok (.value (.array rows)), s)
      | none => (.error (.fault (.key name)), s)
  | count, s =>
      (.ok (.value (.object (s.tables.map fun t => (t.1, .ofInt t.2.length)))), s)
  | append name row, s =>
      (.ok (.value (.object [("success", .bool true)])), s.put name (s.rows name ++ [row]))
  | insert name, s => write name argument.payload s (s.insert name)
  | upsert name, s => write name argument.payload s fun v => s.upsert name v false
  | update name filters, s => patch name filters argument.payload s
  | delete name filters, s => remove name filters s
  | fail raise, s => (.error raise.failure, s)
  | sequence steps, s => runAll argument steps (.value .null) s
  | octets o, s => (.ok (.octets o), s)
  | reverse, s => still s ((reversed argument.payload).mapError .fault)
  | response data status headers, s =>
      let effect := run argument data s
      (effect.1.map fun reply => .answer reply status headers, effect.2)
termination_by structural script => script

/-- Runs steps in order up to one that fails; the last one gives the reply. -/
def runAll (argument : Argument) : List Script → Reply → Store → Effect Reply
  | [], last, s => (.ok last, s)
  | step :: rest, _, s =>
      match run argument step s with
      | (.error e, s) => (.error e, s)
      | (.ok reply, s) => runAll argument rest reply s
termination_by structural steps => steps

end

def procedure (script : Script) : Procedure :=
  fun v s => run (.parameters v) script s

def function (script : Script) : EdgeFunction :=
  fun c s => run (.call c) script s

end Script

end TableServer
