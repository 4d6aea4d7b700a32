import TableServer.Proofs.Filter.Containment
import TableServer.Proofs.Table.Repetition
import TableServer.Proofs.Value.Counting

/-! Where stored values are compared. An upsert compares identities, and three tests of filters
compare members, all of them loosely: what they take for equal is equal as a JSON value, except that
a boolean passes for the number that it counts as, at any depth. -/
namespace TableServer

open Value

theorem Value.Tidy.patched {row : Value} {patch : Members} (h : row.Tidy)
    (hp : (Value.object patch).Tidy) : (row.patched patch).Tidy := by
  cases row with
  | object members =>
      cases h with
      | object unique tidy =>
      cases hp with
      | object _ tidy' =>
      refine .object (Entries.nodup_names_merge unique patch) fun e he => ?_
      exact (Entries.mem_merge he).elim (tidy e) (tidy' e)
  | _ => exact h

namespace Table

variable {ignore : Bool} {row stored : Members} {rows : List Members}
  {table left : Table} {i : Nat}

/-- In the course of an upsert, a row of the payload is taken for a stored one. -/
inductive TakenFor (ignore : Bool) (row stored : Members) :
    List Members → Table → Prop where
  | here {rest : List Members} {table left : Table} {i : Nat} :
      upsertRow ignore row table = .ok (i, left) → table[i]? = some (.object stored) →
      TakenFor ignore row stored (row :: rest) table
  | later {first : Members} {rest : List Members} {table left : Table} {i : Nat} :
      upsertRow ignore first table = .ok (i, left) → TakenFor ignore row stored rest left →
      TakenFor ignore row stored (first :: rest) table

theorem exists_of_findFrom {identity : Value} {start : Nat}
    (h : findFrom start identity table = .ok (some i)) : ∃ j members, i = start + j ∧
      table[j]? = some (.object members) ∧ (identityOf members).same identity = true := by
  induction table generalizing start with
  | nil => cases h
  | cons old rest ih =>
      cases old with
      | object members =>
          rw [findFrom] at h
          split at h
          · rename_i same
            cases h
            exact ⟨0, members, rfl, rfl, same⟩
          · obtain ⟨j, members, rfl, there, same⟩ := ih h
            exact ⟨j + 1, members, by omega, there, same⟩
      | _ => cases h

theorem upsertRow_cases (h : upsertRow ignore row table = .ok (i, left)) :
    (i = table.length ∧ left = table ++ [.object row]) ∨
      ∃ stored, table[i]? = some (.object stored) ∧
        (identityOf stored).same (identityOf row) = true ∧
        left = if ignore then table else patchAt row i table := by
  obtain ⟨found, searched, done⟩ := Outcome.map_eq_ok_iff.mp h
  cases found with
  | none =>
      cases done
      exact .inl ⟨rfl, rfl⟩
  | some j =>
      cases done
      rw [findIdentity] at searched
      split at searched
      · cases searched
      · obtain ⟨k, stored, position, there, same⟩ := exists_of_findFrom searched
        rw [Nat.zero_add] at position
        exact .inr ⟨stored, position ▸ there, same, rfl⟩

theorem tidy_of_upsertRow (tidy : ∀ old ∈ table, old.Tidy) (tidyRow : (Value.object row).Tidy)
    (h : upsertRow ignore row table = .ok (i, left)) : ∀ old ∈ left, old.Tidy := by
  rcases upsertRow_cases h with ⟨-, rfl⟩ | ⟨stored, -, -, rfl⟩
  · intro old ho
    rcases List.mem_append.mp ho with ho | ho
    · exact tidy old ho
    · rwa [List.mem_singleton.mp ho]
  · cases ignore with
    | true => exact tidy
    | false =>
        intro old ho
        obtain ⟨k, hk⟩ := List.mem_iff_getElem?.mp ho
        rw [if_neg Bool.false_ne_true, getElem?_patchAt] at hk
        split at hk
        · obtain ⟨before, there, rfl⟩ := Option.map_eq_some_iff.mp hk
          exact (tidy before (List.mem_of_getElem? there)).patched tidyRow
        · exact tidy old (List.mem_of_getElem? hk)

/-- A row is taken for a stored one only if their identities are equal once booleans are counted. -/
theorem TakenFor.countedEqual (h : TakenFor ignore row stored rows table)
    (tidy : ∀ old ∈ table, old.Tidy) (tidyRows : ∀ row ∈ rows, (Value.object row).Tidy) :
    CountedEqual (identityOf stored) (identityOf row) := by
  induction h with
  | here done there =>
      rcases upsertRow_cases done with ⟨rfl, -⟩ | ⟨stored', there', same, -⟩
      -- An appended row gets the place behind all rows, where none is stored.
      · rw [List.getElem?_eq_none (Nat.le_refl _)] at there
        cases there
      · cases there.symm.trans there'
        have tidyOld := (tidy _ (List.mem_of_getElem? there)).find? identityKey
        have tidyNew := (tidyRows _ List.mem_cons_self).find? identityKey
        exact (equal_of_same tidyOld tidyNew same).countedEqual
  | later done _ ih =>
      exact ih (tidy_of_upsertRow tidy (tidyRows _ List.mem_cons_self) done)
        fun other ho => tidyRows other (List.mem_cons_of_mem _ ho)

end Table

/-- Every member of the first has a partner of its name in the second, equal once booleans are
counted. -/
def Partnered (members others : Members) : Prop :=
  ∀ name v, (name, v) ∈ members → ∃ w, Entries.find? name others = some w ∧ CountedEqual v w

theorem partnered_of_within {members others : Members} (tidy : (Value.object members).Tidy)
    (tidy' : (Value.object others).Tidy) (h : Collection.within members others = true) :
    Partnered members others := by
  intro name v member
  have met := List.all_eq_true.mp h (name, v) member
  cases tidy with
  | object _ tidy =>
  cases tidy' with
  | object _ tidy' =>
  cases hw : Entries.find? name others with
  | none => simp [hw] at met
  | some w =>
      have same : v.same w = true := by simpa [hw] using met
      have tidyW := tidy' _ (Entries.mem_of_find? hw)
      exact ⟨w, rfl, (equal_of_same (tidy _ member) tidyW same).countedEqual⟩

namespace Store

/-- An upsert takes a row for a stored one, and tests for matching and for containment take members
for equal, only if these are equal once booleans count as numbers. So they are equal as JSON values
as well, exactly where no boolean stands for the number that it counts as. -/
theorem comparisons_countedEqual {s : Store} {name : String} {payload : Value}
    (tidy : ∀ row ∈ s.rows name, row.Tidy) (tidyPayload : payload.Tidy) (ignore : Bool) :
    (∀ rows row stored, Table.payloadRows payload = .ok rows →
      Table.TakenFor ignore row stored rows (s.rows name) →
        CountedEqual (Table.identityOf stored) (Table.identityOf row)) ∧
    ∀ literal expected members, Value.read (.ofChars literal) = .ok (.object expected) →
      (Value.object members).Tidy →
        (Filter.Judged .agrees literal (.object members) true → Partnered expected members) ∧
        (Filter.Judged .contains literal (.object members) true → Partnered expected members) ∧
        (Filter.Judged .containedBy literal (.object members) true →
          Partnered members expected) := by
  constructor
  · intro rows row stored accepted taken
    exact taken.countedEqual tidy (Table.tidy_of_payloadRows tidyPayload accepted)
  · intro literal expected members told tidyMembers
    have tidyExpected := Value.tidy_of_read_eq_ok told
    refine ⟨fun judged => ?_, fun judged => ?_, fun judged => ?_⟩
    · have within := (Filter.judged_agrees_object told).mp judged
      exact partnered_of_within tidyExpected tidyMembers within
    · have within := (Filter.judged_contains_object told).mp judged
      exact partnered_of_within tidyExpected tidyMembers within
    · have within := (Filter.judged_containedBy_object told).mp judged
      exact partnered_of_within tidyMembers tidyExpected within

def numberedPost : Store :=
  ⟨[("posts", [.object [("id", .ofInt 1)]])]⟩

theorem takenFor_numberedPost : Table.TakenFor false [("id", .bool true)] [("id", .ofInt 1)]
    [[("id", .bool true)]] (numberedPost.rows "posts") :=
  .here rfl rfl

theorem comparisons_countedEqual_of_numberedPost :
    CountedEqual (.ofInt 1) (.bool true) ∧ ∃ w,
      Entries.find? (Codes.ofString "a") [("a", .bool true)] = some w ∧ CountedEqual (.ofInt 1) w := by
  have one : ∀ name : Codes, ∀ v : Value, v.Tidy → (Value.object [(name, v)]).Tidy :=
    fun name v tidy => .object (List.nodup_singleton _) fun e he => by
      rw [List.mem_singleton.mp he]
      exact tidy
  have tidy : ∀ row ∈ numberedPost.rows "posts", row.Tidy := by
    intro row hr
    rw [List.mem_singleton.mp hr]
    exact one _ _ (.number _)
  obtain ⟨rows, tests⟩ := comparisons_countedEqual tidy (one "id" (.bool true) (.bool true)) false
  have literal : Value.read "\x7b\"a\":1\x7d" = .ok (.object [("a", .ofInt 1)]) := by
    refine (read_of_unmarked (by decide) _).trans (@readText_member ['a']
      ['a', '"', ':', '1', '\x7d'] fun start => ?_)
    simp [readString, Except.map, CodePoint.toNat]
  obtain ⟨agrees, -⟩ := tests _ _ [("a", .bool true)] literal (one _ _ (.bool true))
  have judged : Filter.Judged .agrees "\x7b\"a\":1\x7d".toList (.object [("a", .bool true)]) true :=
    (Filter.judged_agrees_object literal).mpr rfl
  exact ⟨rows _ _ _ rfl takenFor_numberedPost, agrees judged "a" _ (List.mem_singleton.mpr rfl)⟩

/-- A post whose identity is true is merged onto the one whose identity is the number one, which is
not an equal JSON value. -/
theorem true_merged_onto_one :
    (numberedPost.upsert "posts" (.object [("id", .bool true)]) false).1 = .ok [0] ∧
      Table.TakenFor false [("id", .bool true)] [("id", .ofInt 1)] [[("id", .bool true)]]
        (numberedPost.rows "posts") ∧
      ¬ Equal false (Table.identityOf [("id", .ofInt 1)])
        (Table.identityOf [("id", .bool true)]) := by
  refine ⟨rfl, takenFor_numberedPost, fun equal => ?_⟩
  cases equal.kind_eq

end Store

end TableServer
