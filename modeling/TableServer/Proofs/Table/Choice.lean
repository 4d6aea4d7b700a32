import TableServer.Filter.Basic
import TableServer.Proofs.Outcome
import TableServer.Table.Store

/-! Rows that a predicate chooses. Where a predicate decides every row, reading, deleting and
updating by it are plain operations on lists: a filter, its complement, and a map in place. -/
namespace TableServer

def Value.patched (patch : Members) : Value → Value
  | object members => object (Entries.merge members patch)
  | other => other

theorem Value.isObject_patched {row : Value} (h : row.isObject = true) (patch : Members) :
    (row.patched patch).isObject = true := by
  cases row <;> exact h

namespace RowPredicate

def chooses (p : RowPredicate) (row : Value) : Bool :=
  match p row with
  | .ok b => b
  | .error _ => false

def DecidesAll (p : RowPredicate) (table : Table) : Prop :=
  ∀ row ∈ table, p row = .ok (chooses p row)

variable {p : RowPredicate}

theorem chooses_of_eq {row : Value} {b : Bool} (h : p row = .ok b) : chooses p row = b := by
  rw [chooses, h]

theorem chooses_eq_true_iff {row : Value} : chooses p row = true ↔ p row = .ok true := by
  unfold chooses
  cases p row <;> simp

theorem DecidesAll.filter {table : Table} (h : DecidesAll p table) (q : Value → Bool) :
    DecidesAll p (table.filter q) :=
  fun row hr => h row (List.mem_filter.mp hr).1

end RowPredicate

open RowPredicate

theorem selectRows_eq_ok_iff {p : RowPredicate} {rows kept : List Value} :
    selectRows p rows = .ok kept ↔ DecidesAll p rows ∧ rows.filter (chooses p) = kept := by
  induction rows generalizing kept with
  | nil => simp [selectRows, DecidesAll]
  | cons row rest ih =>
      rw [selectRows]
      cases hp : p row with
      | error fault => simp [DecidesAll, hp]
      | ok b =>
          have chosen := chooses_of_eq hp
          have all : DecidesAll p (row :: rest) ↔ DecidesAll p rest := by
            simp [DecidesAll, hp, chosen]
          simp only [Outcome.map_eq_ok_iff, ih, all, List.filter_cons, chosen]
          cases b <;> simp

namespace Table

variable {p : RowPredicate} {table : Table}

theorem decide_of_decidesAll (h : DecidesAll p table) :
    table.decide p = .ok (table.map (chooses p)) := by
  induction table with
  | nil => rfl
  | cons row rest ih =>
      have head := h row (by simp)
      have tail := ih fun other ho => h other (by simp [ho])
      simp [decide, head, tail, Except.map]

theorem decide_eq_ok_iff {decisions : List Bool} :
    table.decide p = .ok decisions ↔ DecidesAll p table ∧ table.map (chooses p) = decisions := by
  induction table generalizing decisions with
  | nil => simp [decide, DecidesAll]
  | cons row rest ih =>
      rw [decide]
      cases hp : p row with
      | error fault => simp [DecidesAll, hp]
      | ok b =>
          have chosen := chooses_of_eq hp
          have all : DecidesAll p (row :: rest) ↔ DecidesAll p rest := by
            simp [DecidesAll, hp, chosen]
          simp only [Outcome.map_eq_ok_iff, ih, all, List.map_cons, chosen]
          constructor
          · rintro ⟨_, ⟨decided, rfl⟩, rfl⟩
            exact ⟨decided, rfl⟩
          · rintro ⟨decided, rfl⟩
            exact ⟨_, ⟨decided, rfl⟩, rfl⟩

theorem part_choice (q : Value → Bool) (table : Table) :
    part (table.map q) table = (table.filter (!q ·), table.filter q) := by
  induction table with
  | nil => rfl
  | cons row rest ih => cases hq : q row <;> simp [part, ih, hq]

theorem patchAt_append (patch : Members) (front : Table) (row : Value) (rest : Table) :
    patchAt patch front.length (front ++ row :: rest) = front ++ row.patched patch :: rest := by
  induction front with
  | nil => cases row <;> rfl
  | cons other front ih => simp [patchAt, ih]

theorem patchAll_behind (patch : Members) (q : Value → Bool) {table : Table}
    (objects : ∀ row ∈ table, row.isObject = true) (front : Table) :
    patchAll patch (positionsFrom front.length (table.map q)) (front ++ table) =
      (.ok (), front ++ table.map fun row => if q row then row.patched patch else row) := by
  induction table generalizing front with
  | nil => simp [positionsFrom, patchAll]
  | cons row rest ih =>
      have others : ∀ row ∈ rest, row.isObject = true := fun other ho => objects other (by simp [ho])
      have passed (done : Value) := ih others (front ++ [done])
      simp only [List.length_append, List.length_singleton, List.append_assoc,
        List.singleton_append] at passed
      cases hq : q row with
      | false => simpa [positionsFrom, hq] using passed row
      | true =>
          have object := objects row (by simp)
          cases row <;> simp only [Value.isObject, Value.members?, Option.isSome] at object
          case object members =>
            have here : (front ++ Value.object members :: rest)[front.length]? =
                some (.object members) := by simp
            simp only [List.map_cons, hq, positionsFrom, if_true, patchAll, here, patchAt_append]
            exact passed _
          all_goals cases object

theorem patchAll_choice (patch : Members) (q : Value → Bool)
    (objects : ∀ row ∈ table, row.isObject = true) :
    patchAll patch (positionsFrom 0 (table.map q)) table =
      (.ok (), table.map fun row => if q row then row.patched patch else row) :=
  patchAll_behind patch q objects []

theorem rowsAt_behind (q : Value → Bool) (change : Value → Value) (table front : Table) :
    rowsAt (front ++ table.map change) (positionsFrom front.length (table.map q)) =
      (table.filter q).map change := by
  induction table generalizing front with
  | nil => rfl
  | cons row rest ih =>
      have passed := ih (front ++ [change row])
      simp only [List.length_append, List.length_singleton, List.append_assoc,
        List.singleton_append, rowsAt] at passed
      cases hq : q row <;> simp [rowsAt, positionsFrom, hq, passed]

theorem rowsAt_choice (q : Value → Bool) (change : Value → Value) (table : Table) :
    rowsAt (table.map change) (positionsFrom 0 (table.map q)) = (table.filter q).map change :=
  rowsAt_behind q change table []

theorem positionsFrom_isEmpty (q : Value → Bool) (start : Nat) (table : Table) :
    (positionsFrom start (table.map q)).isEmpty = (table.filter q).isEmpty := by
  induction table generalizing start with
  | nil => rfl
  | cons row rest ih => cases hq : q row <;> simp_all [positionsFrom]

end Table

namespace Store

variable {s : Store} {name : String} {p : RowPredicate}

theorem delete_choice (h : DecidesAll p (s.rows name)) :
    ∃ left, s.delete name (some p) = (.ok ((s.rows name).filter (chooses p)), left) ∧
      left.rows name = (s.rows name).filter (!chooses p ·) ∧
      ∀ other, other ≠ name → left.rows other = s.rows other := by
  simp only [delete, Table.decide_of_decidesAll h, Table.part_choice]
  split
  · rename_i empty
    refine ⟨s, ?_, ?_, fun other _ => rfl⟩
    · simp [List.isEmpty_iff.mp empty]
    · simp [List.isEmpty_iff.mp empty]
  · exact ⟨s.put name _, rfl, rows_put_self s name _, fun other ho => rows_put_of_ne ho s _⟩

theorem update_of_no_choice (h : DecidesAll p (s.rows name))
    (empty : (s.rows name).filter (chooses p) = []) (patch : Members) :
    s.update name (some p) (.object patch) = (.error (nothingMatched name), s) := by
  simp [update, patchOf, Table.decide_of_decidesAll h, Table.positionsFrom_isEmpty, empty]

theorem update_choice (h : DecidesAll p (s.rows name))
    (objects : ∀ row ∈ s.rows name, row.isObject = true)
    (found : (s.rows name).filter (chooses p) ≠ []) (patch : Members) :
    touched name (s.update name (some p) (.object patch)) =
      (.ok (((s.rows name).filter (chooses p)).map (Value.patched patch)),
        s.put name ((s.rows name).map fun row =>
          if chooses p row then row.patched patch else row)) := by
  have some_position : (Table.positionsFrom 0 ((s.rows name).map (chooses p))).isEmpty = false := by
    rw [Table.positionsFrom_isEmpty]
    simpa [List.isEmpty_iff] using found
  have changed : ((s.rows name).filter (chooses p)).map
      (fun row => if chooses p row then row.patched patch else row) =
        ((s.rows name).filter (chooses p)).map (Value.patched patch) := by
    refine List.map_congr_left fun row hr => ?_
    rw [if_pos (List.mem_filter.mp hr).2]
  simp only [touched, update, patchOf, Table.decide_of_decidesAll h, some_position,
    Table.patchAll_choice patch (chooses p) objects, Except.mapError, Except.map,
    Bool.false_eq_true, if_false, rows_put_self, Table.rowsAt_choice, changed]

end Store

end TableServer
