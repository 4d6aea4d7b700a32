import TableServer.Table.Store

/-! A session with a store. It holds on to the rows that the last operation returned, of which
some stand in the store and some do not. -/
namespace TableServer

/-- A row that is held: one of a table, or one that stands nowhere. -/
inductive HeldRow where
  | live (table : String) (position : Nat)
  | loose (row : Value)

/-- A row that is held when its table is taken out of the store. -/
def HeldRow.release (s : Store) (name : String) : HeldRow → HeldRow
  | live table position =>
      if table = name then loose (((s.rows table)[position]?).getD .null) else live table position
  | loose row => loose row

structure Session where
  store : Store
  last : List HeldRow

namespace Session

def ofStore (s : Store) : Session :=
  ⟨s, []⟩

inductive Operation where
  | insert (payload : Value)
  | upsert (payload : Value) (ignore : Bool)
  | update (predicate : Option RowPredicate) (payload : Value)
  | delete (predicate : Option RowPredicate)
  | snapshot
  | ensure
  | get
  | find
  | pop
  | default (rows : Table)
  | set (rows : Table)
  | remove

def release (session : Session) (name : String) : List HeldRow :=
  session.last.map (HeldRow.release session.store name)

def live (name : String) (positions : List Nat) : List HeldRow :=
  positions.map (.live name)

def liveTable (s : Store) (name : String) : List HeldRow :=
  live name (List.range (s.rows name).length)

def written (session : Session) (name : String) (effect : Effect (List Nat)) :
    Outcome (Option (List Value)) × Session :=
  match effect.1 with
  | .error e => (.error e, ⟨effect.2, session.last⟩)
  | .ok positions =>
      (.ok (some (Table.rowsAt (effect.2.rows name) positions)), ⟨effect.2, live name positions⟩)

def whole (s : Store) (name : String) : Outcome (Option (List Value)) × Session :=
  (.ok (some (s.rows name)), ⟨s, liveTable s name⟩)

def missing (session : Session) (name : String) : Outcome (Option (List Value)) × Session :=
  (.error (.fault (.key name)), session)

def run (session : Session) (name : String) : Operation → Outcome (Option (List Value)) × Session
  | .insert payload => session.written name (session.store.insert name payload)
  | .upsert payload ignore => session.written name (session.store.upsert name payload ignore)
  | .update predicate payload => session.written name (session.store.update name predicate payload)
  | .delete predicate =>
      match session.store.delete name predicate with
      | (.error e, s) => (.error e, ⟨s, session.last⟩)
      | (.ok removed, s) => (.ok (some removed), ⟨s, removed.map .loose⟩)
  | .snapshot =>
      let rows := session.store.rows name
      (.ok (some rows), ⟨session.store, rows.map .loose⟩)
  | .ensure => whole (session.store.ensure name) name
  | .get =>
      if Entries.has name session.store.tables then whole session.store name
      else session.missing name
  | .find =>
      if Entries.has name session.store.tables then whole session.store name
      else (.ok none, session)
  | .pop =>
      if Entries.has name session.store.tables then
        let rows := session.store.rows name
        (.ok (some rows), ⟨session.store.remove name, rows.map .loose⟩)
      else session.missing name
  | .default rows =>
      whole (if Entries.has name session.store.tables then session.store
        else session.store.put name rows) name
  | .set rows => (.ok none, ⟨session.store.put name rows, session.release name⟩)
  | .remove =>
      if Entries.has name session.store.tables then
        (.ok none, ⟨session.store.remove name, session.release name⟩)
      else session.missing name

def reset (session : Session) : Session :=
  ⟨.empty, session.store.tables.foldl
    (fun held t => held.map (HeldRow.release session.store t.1)) session.last⟩

/-- Merges a patch into every held row that is an object, and counts them. -/
def touch (session : Session) (patch : Members) : Nat × Session :=
  session.last.foldl (fun (count, current) held =>
    match held with
    | .loose row => (if row.isObject then count + 1 else count, current)
    | .live name position =>
        match (current.store.rows name)[position]? with
        | some (.object _) =>
            let table := Table.patchAt patch position (current.store.rows name)
            (count + 1, ⟨current.store.put name table, current.last⟩)
        | _ => (count, current)) (0, session)

end Session

end TableServer
