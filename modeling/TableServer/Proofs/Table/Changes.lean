import TableServer.Proofs.Table.Repetition

/-! What writes make of a table. The rows of an upsert are merged into the rows that are there, or
they follow behind them. An update and a deletion change and remove rows that they choose, and they
do nothing to a table without rows. -/
namespace TableServer

theorem exists_of_forall₂_append {α β : Type} {R : α → β → Prop} {as bs : List α} {cs : List β}
    (h : List.Forall₂ R (as ++ bs) cs) :
    ∃ front behind, List.Forall₂ R as front ∧ List.Forall₂ R bs behind ∧ cs = front ++ behind :=
  ⟨cs.take as.length, cs.drop as.length, (List.forall₂_take_append cs as bs h.flip).flip,
    (List.forall₂_drop_append cs as bs h.flip).flip, (List.take_append_drop _ _).symm⟩

namespace Value

/-- A row onto which some rows of a payload were merged, in their order. -/
def MergedFrom (rows : List Members) (old new : Value) : Prop :=
  ∃ patches : List Members, patches.Sublist rows ∧
    new = patches.foldl (fun row patch => row.patched patch) old

namespace MergedFrom

variable {rows : List Members} {old new : Value} {patch : Members}

theorem refl (rows : List Members) (row : Value) : MergedFrom rows row row :=
  ⟨[], List.nil_sublist rows, rfl⟩

theorem cons_kept (h : MergedFrom rows old new) (patch : Members) :
    MergedFrom (patch :: rows) old new := by
  obtain ⟨patches, some_rows, rfl⟩ := h
  exact ⟨patches, some_rows.cons patch, rfl⟩

theorem cons_merged (h : MergedFrom rows (old.patched patch) new) :
    MergedFrom (patch :: rows) old new := by
  obtain ⟨patches, some_rows, rfl⟩ := h
  exact ⟨patch :: patches, some_rows.cons_cons patch, rfl⟩

theorem isObject (h : MergedFrom rows old new) (object : old.isObject = true) :
    new.isObject = true := by
  obtain ⟨patches, -, rfl⟩ := h
  clear rows
  induction patches generalizing old with
  | nil => exact object
  | cons patch rest ih => exact ih (isObject_patched object patch)

end MergedFrom

end Value

namespace Table

variable {rows : List Members} {row : Members} {table old new left : Table}

/-- What an upsert makes of a table: rows of the payload are merged into its rows where they stand,
and others follow behind, in their order. Onto these, too, later rows are merged. -/
def Upserted (rows : List Members) (old left : Table) : Prop :=
  ∃ (held added : Table) (fresh : List Members), left = held ++ added ∧
    List.Forall₂ (Value.MergedFrom rows) old held ∧ fresh.Sublist rows ∧
    List.Forall₂ (Value.MergedFrom rows) (fresh.map .object) added

/-- A relation of all rows of a patched table holds of the rows before the patch, where one row was
patched. -/
theorem forall₂_of_patchAt {R S : Value → Value → Prop} {patch : Members} {i : Nat}
    (h : List.Forall₂ R (patchAt patch i table) new) (kept : ∀ old new, R old new → S old new)
    (merged : ∀ old new, R (old.patched patch) new → S old new) : List.Forall₂ S table new := by
  induction table generalizing i new with
  | nil =>
      cases i <;> cases h
      all_goals exact .nil
  | cons old rest ih =>
      cases i with
      | zero =>
          have first : patchAt patch 0 (old :: rest) = old.patched patch :: rest := by
            cases old <;> rfl
          rw [first] at h
          cases h with
          | cons head tail => exact .cons (merged _ _ head) (tail.imp kept)
      | succ i =>
          rw [patchAt] at h
          cases h with
          | cons head tail => exact .cons (kept _ _ head) (ih tail)

namespace Upserted

theorem refl (rows : List Members) (table : Table) : Upserted rows table table :=
  ⟨table, [], [], by simp, List.forall₂_same.mpr fun row _ => .refl rows row, by simp, .nil⟩

theorem cons_ignored (h : Upserted rows table left) (row : Members) :
    Upserted (row :: rows) table left := by
  obtain ⟨held, added, fresh, rfl, merged, some_rows, behind⟩ := h
  have more (old new : Value) (h : Value.MergedFrom rows old new) := h.cons_kept row
  exact ⟨held, added, fresh, rfl, merged.imp more, some_rows.cons row, behind.imp more⟩

theorem cons_found {i : Nat} (h : Upserted rows (patchAt row i table) left) :
    Upserted (row :: rows) table left := by
  obtain ⟨held, added, fresh, rfl, merged, some_rows, behind⟩ := h
  have more (old new : Value) (h : Value.MergedFrom rows old new) := h.cons_kept row
  exact ⟨held, added, fresh, rfl, forall₂_of_patchAt merged more fun _ _ h => h.cons_merged,
    some_rows.cons row, behind.imp more⟩

theorem cons_absent (h : Upserted rows (table ++ [.object row]) left) :
    Upserted (row :: rows) table left := by
  obtain ⟨held, added, fresh, rfl, merged, some_rows, behind⟩ := h
  have more (old new : Value) (h : Value.MergedFrom rows old new) := h.cons_kept row
  obtain ⟨front, last, kept, appended, rfl⟩ := exists_of_forall₂_append merged
  obtain ⟨new, rest, here, none_left, rfl⟩ := List.forall₂_cons_left_iff.mp appended
  cases none_left
  exact ⟨front, new :: added, row :: fresh, by simp, kept.imp more, some_rows.cons_cons row,
    .cons (more _ _ here) (behind.imp more)⟩

theorem objects (h : Upserted rows old left) (all : ∀ row ∈ old, row.isObject = true) :
    ∀ row ∈ left, row.isObject = true := by
  have each {before after : Table} (merged : List.Forall₂ (Value.MergedFrom rows) before after)
      (all : ∀ row ∈ before, row.isObject = true) : ∀ row ∈ after, row.isObject = true := by
    induction merged with
    | nil => simp
    | cons head _ ih =>
        obtain ⟨first, rest⟩ := List.forall_mem_cons.mp all
        exact List.forall_mem_cons.mpr ⟨head.isObject first, ih rest⟩
  obtain ⟨held, added, fresh, rfl, merged, -, behind⟩ := h
  refine List.forall_mem_append.mpr ⟨each merged all, each behind ?_⟩
  intro row hr
  obtain ⟨members, -, rfl⟩ := List.mem_map.mp hr
  rfl

end Upserted

theorem upserted_upsertRows (ignore : Bool) (rows : List Members) (table : Table) :
    Upserted rows table (upsertRows ignore rows table).2 := by
  induction rows generalizing table with
  | nil => exact .refl [] table
  | cons row rest ih =>
      rw [upsertRows, upsertRow]
      cases findIdentity (identityOf row) table with
      | error fault => exact .refl (row :: rest) table
      | ok found =>
          cases found with
          | none => exact (ih _).cons_absent
          | some i =>
              cases ignore with
              | true => exact (ih _).cons_ignored row
              | false => exact (ih _).cons_found

/-- A table in which rows that satisfy `p` may have been changed where they stand or removed, and
all others stand as they were. -/
inductive Spares (p : Value → Prop) : Table → Table → Prop where
  | nil : Spares p [] []
  | kept (row : Value) {old new : Table} : Spares p old new → Spares p (row :: old) (row :: new)
  | changed {row : Value} (after : Value) {old new : Table} : p row → Spares p old new →
      Spares p (row :: old) (after :: new)
  | removed {row : Value} {old new : Table} : p row → Spares p old new → Spares p (row :: old) new

namespace Spares

variable {p : Value → Prop} {chosen : Value → Bool}

theorem refl (p : Value → Prop) (table : Table) : Spares p table table := by
  induction table with
  | nil => exact .nil
  | cons row rest ih => exact .kept row ih

theorem map (chosen_sound : ∀ row ∈ table, chosen row = true → p row) (change : Value → Value) :
    Spares p table (table.map fun row => if chosen row then change row else row) := by
  induction table with
  | nil => exact .nil
  | cons row rest ih =>
      obtain ⟨here, behind⟩ := List.forall_mem_cons.mp chosen_sound
      rw [List.map_cons]
      cases hc : chosen row with
      | true => exact .changed _ (here hc) (ih behind)
      | false => exact .kept row (ih behind)

theorem filter (chosen_sound : ∀ row ∈ table, chosen row = true → p row) :
    Spares p table (table.filter (!chosen ·)) := by
  induction table with
  | nil => exact .nil
  | cons row rest ih =>
      obtain ⟨here, behind⟩ := List.forall_mem_cons.mp chosen_sound
      cases hc : chosen row with
      | true =>
          rw [List.filter_cons_of_neg (by simp [hc])]
          exact .removed (here hc) (ih behind)
      | false =>
          rw [List.filter_cons_of_pos (by simp [hc])]
          exact .kept row (ih behind)

end Spares

end Table

namespace Store

variable {s : Store} {name : String}

theorem mem_names_of_rows (h : s.rows name ≠ []) : name ∈ Entries.names s.tables := by
  by_contra absent
  rw [← Entries.find?_eq_none_iff] at absent
  exact h (by rw [rows, absent]; rfl)

theorem update_of_no_rows (h : s.rows name = []) (predicate : Option RowPredicate)
    (payload : Value) : (s.update name predicate payload).2 = s := by
  unfold update
  cases patchOf payload with
  | error e => rfl
  | ok patch =>
      cases predicate with
      | none => rfl
      | some p =>
          rw [h]
          rfl

theorem delete_of_no_rows (h : s.rows name = []) (predicate : Option RowPredicate) :
    (s.delete name predicate).2 = s := by
  unfold delete
  cases predicate with
  | none => rfl
  | some p =>
      rw [h]
      rfl

end Store

end TableServer
