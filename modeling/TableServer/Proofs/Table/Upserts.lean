import TableServer.Proofs.Table.Identities

/-! What an upsert of several rows leaves. Every row of the table stays where it stands and takes
the rows of the payload that have its identity, if no row before it has that identity too. Behind
the table stand the rows of the payload that have a new identity or none, each with the later rows
of its identity merged onto it. The proof adds the rows of the payload one at a time behind those
that are upserted: whatever is merged onto a row leaves its identity equal to what it was, so a row
meets the table that the earlier rows left where it meets the rows that the table grew from. -/
namespace TableServer

theorem Value.same_congr_left {a b : Value} (ha : a.Tidy) (hb : b.Tidy) (h : a.same b = true)
    (v : Value) : b.same v = a.same v :=
  Bool.eq_iff_iff.mpr ⟨same_trans hb h, same_trans ha (same_symm ha hb h)⟩

namespace Table

def meets (row : Members) (old : Value) : Bool :=
  !(identityOf row).isNull && old.identity.same (identityOf row)

/-- A row with others merged onto it in order, unless duplicates are ignored. -/
def mergedWith (ignore : Bool) (rows : List Members) (old : Value) : Value :=
  if ignore then old else rows.foldl (fun row patch => row.patched patch) old

/-- Whether a row of a payload is new behind a table and the rows of the payload before it. -/
def isNew (table : Table) (before : List Members) (row : Members) : Bool :=
  (table ++ before.map Value.object).all fun old => !meets row old

/-- The new rows of a payload, with their places in it. -/
def newcomers (table : Table) (rows : List Members) : List (Members × Nat) :=
  rows.zipIdx.filter fun entry => isNew table (rows.take entry.2) entry.1

/-- The rows of a table behind an upsert: onto a row are merged the rows of the payload that it is
the first to be met by. -/
def held (ignore : Bool) (table : Table) (rows : List Members) : Table :=
  table.mapIdx fun k old =>
    mergedWith ignore (rows.filter fun row => table.findIdx? (meets row) = some k) old

/-- The rows that an upsert appends: the new ones, each with the later rows of its identity. -/
def added (ignore : Bool) (table : Table) (rows : List Members) : Table :=
  (newcomers table rows).map fun entry =>
    mergedWith ignore ((rows.drop (entry.2 + 1)).filter (meets · (.object entry.1)))
      (.object entry.1)

def upserted (ignore : Bool) (table : Table) (rows : List Members) : Table :=
  held ignore table rows ++ added ignore table rows

/-- Where a row of a payload, given with its place in the payload, stands behind an upsert. -/
inductive StandsAt (table : Table) (rows : List Members) :
    Members × Nat → Nat → Prop where
  /-- On the first row of the table that has its identity. -/
  | merged {entry : Members × Nat} {k : Nat}
      (found : table.findIdx? (meets entry.1) = some k) : StandsAt table rows entry k
  /-- Behind the table, as a new row. -/
  | appended {entry : Members × Nat} {j : Nat}
      (new : (newcomers table rows)[j]? = some entry) :
      StandsAt table rows entry (table.length + j)
  /-- On a new row that stands before it in the payload and has its identity. -/
  | joined {entry first : Members × Nat} {j : Nat}
      (absent : table.findIdx? (meets entry.1) = none)
      (new : (newcomers table rows)[j]? = some first) (before : first.2 < entry.2)
      (met : meets entry.1 (.object first.1) = true) :
      StandsAt table rows entry (table.length + j)

variable {table : Table} {rows : List Members} {row : Members} {old : Value}

section Meeting

theorem meets_iff : meets row old = true ↔
    (identityOf row).isNull = false ∧ old.identity.same (identityOf row) = true := by
  simp [meets]

theorem meets_of_meets {first : Members} (tidyRow : (identityOf row).Tidy)
    (tidyFirst : (identityOf first).Tidy) (h : meets row (.object first) = true)
    (h' : meets row old = true) : meets first old = true := by
  obtain ⟨present, same⟩ := meets_iff.mp h
  have turned := Value.same_symm tidyFirst tidyRow same
  exact meets_iff.mpr ⟨(Value.isNull_eq_of_same same).trans present,
    Value.same_trans tidyRow (meets_iff.mp h').2 turned⟩

theorem meets_trans {other : Members} (tidy : (identityOf other).Tidy)
    (h : meets row (.object other) = true) (h' : meets other old = true) :
    meets row old = true := by
  obtain ⟨present, same⟩ := meets_iff.mp h
  exact meets_iff.mpr ⟨present, Value.same_trans tidy (meets_iff.mp h').2 same⟩

theorem upsertRow_eq_of_meets (objects : ∀ row ∈ table, row.isObject = true) (ignore : Bool) :
    upsertRow ignore row table =
      .ok (match table.findIdx? (meets row) with
        | none => (table.length, table ++ [.object row])
        | some i => (i, if ignore then table else patchAt row i table)) := by
  cases present : (identityOf row).isNull with
  | true =>
      have nothing : table.findIdx? (meets row) = none := by simp [meets, present]
      rw [nothing]
      simp [upsertRow, findIdentity, present, Except.map]
  | false =>
      have told : meets row = fun old => old.identity.same (identityOf row) := by
        funext old
        simp [meets, present]
      rw [told]
      exact upsertRow_eq objects present ignore

end Meeting

section Merged

/-- A row is an object with an identity that equals just what the identity of another equals. -/
structure Continues (old new : Value) : Prop where
  object : new.isObject = true
  tidy : new.identity.Tidy
  alike : ∀ v, new.identity.same v = old.identity.same v

theorem Continues.meets {new : Value} (h : Continues old new) (row : Members) :
    meets row new = meets row old := by
  rw [Table.meets, Table.meets, h.alike]

theorem Continues.patched {new : Value} (h : Continues old new) (tidy : old.identity.Tidy)
    (tidyRow : (Value.object row).Tidy) (met : Table.meets row old = true) :
    Continues old (new.patched row) := by
  obtain ⟨present, same⟩ := meets_iff.mp met
  have unique : (Entries.names row).Nodup := by
    cases tidyRow with
    | object unique _ => exact unique
  have tidyNew : (identityOf row).Tidy := tidyRow.find? identityKey
  have named : (new.patched row).identity = identityOf row :=
    identity_patched unique present h.object
  refine ⟨Value.isObject_patched h.object row, ?_, ?_⟩
  · rwa [named]
  · rw [named]
    exact Value.same_congr_left tidy tidyNew same

theorem continues_mergedWith (object : old.isObject = true) (tidy : old.identity.Tidy)
    {patches : List Members} (tidyRows : ∀ row ∈ patches, (Value.object row).Tidy)
    (met : ∀ row ∈ patches, meets row old = true) (ignore : Bool) :
    Continues old (mergedWith ignore patches old) := by
  have start : Continues old old := ⟨object, tidy, fun _ => rfl⟩
  cases ignore with
  | true => exact start
  | false =>
      suffices ∀ new, Continues old new →
          Continues old (patches.foldl (fun row patch => row.patched patch) new) from this old start
      induction patches with
      | nil => exact fun new h => h
      | cons row rest ih =>
          obtain ⟨first, others⟩ := List.forall_mem_cons.mp tidyRows
          obtain ⟨here, onwards⟩ := List.forall_mem_cons.mp met
          exact fun new h => ih others onwards _ (h.patched tidy first here)

theorem mergedWith_concat (ignore : Bool) (patches : List Members)
    (row : Members) (old : Value) :
    mergedWith ignore (patches ++ [row]) old =
      if ignore then mergedWith ignore patches old
      else (mergedWith ignore patches old).patched row := by
  cases ignore <;> simp [mergedWith]

end Merged

section Newcomers

theorem isNew_iff {before : List Members} : isNew table before row = true ↔
    (∀ old ∈ table, meets row old = false) ∧
      ∀ earlier ∈ before, meets row (.object earlier) = false := by
  simp [isNew]

theorem newcomers_concat (table : Table) (rows : List Members) (row : Members) :
    newcomers table (rows ++ [row]) =
      newcomers table rows ++ if isNew table rows row then [(row, rows.length)] else [] := by
  have earlier : rows.zipIdx.filter (fun entry =>
      isNew table ((rows ++ [row]).take entry.2) entry.1) = newcomers table rows := by
    refine List.filter_congr fun entry he => ?_
    rw [List.take_append_of_le_length (Nat.le_of_lt (List.snd_lt_of_mem_zipIdx he))]
  simp only [newcomers, List.zipIdx_append, List.filter_append] at earlier ⊢
  rw [earlier]
  simp [List.filter_cons]

theorem mem_of_mem_newcomers {entry : Members × Nat} (h : entry ∈ newcomers table rows) :
    entry.1 ∈ rows ∧ entry.2 < rows.length ∧ ∀ old ∈ table, meets entry.1 old = false := by
  obtain ⟨member, new⟩ := List.mem_filter.mp h
  exact ⟨List.fst_mem_of_mem_zipIdx member, List.snd_lt_of_mem_zipIdx member, (isNew_iff.mp new).1⟩

theorem newcomers_apart (table : Table) (rows : List Members) :
    (newcomers table rows).Pairwise fun first later =>
      meets later.1 (.object first.1) = false := by
  induction rows using List.reverseRecOn with
  | nil => exact .nil
  | append_singleton rows row ih =>
      rw [newcomers_concat]
      refine List.pairwise_append.mpr ⟨ih, ?_, ?_⟩
      · split <;> simp
      · intro first hf later hl
        split at hl
        · rename_i new
          obtain rfl := List.mem_singleton.mp hl
          exact (isNew_iff.mp new).2 _ (mem_of_mem_newcomers hf).1
        · cases hl

/-- A row that meets an earlier row of a payload meets one that the payload was grown on. -/
theorem exists_met (tidyRows : ∀ row ∈ rows, (Value.object row).Tidy)
    {earlier : Members} (member : earlier ∈ rows)
    (met : meets row (.object earlier) = true) :
    (∃ old ∈ table, meets row old = true) ∨
      ∃ first ∈ newcomers table rows, meets row (.object first.1) = true := by
  induction rows using List.reverseRecOn generalizing earlier with
  | nil => cases member
  | append_singleton rows last ih =>
      obtain ⟨tidies, tidyLast⟩ := List.forall_mem_append.mp tidyRows
      have before {earlier : Members} (he : earlier ∈ rows)
          (met : meets row (.object earlier) = true) :
          (∃ old ∈ table, meets row old = true) ∨
            ∃ first ∈ newcomers table (rows ++ [last]), meets row (.object first.1) = true := by
        refine (ih tidies he met).imp id ?_
        rintro ⟨first, hf, met⟩
        rw [newcomers_concat]
        exact ⟨first, List.mem_append_left _ hf, met⟩
      rcases List.mem_append.mp member with he | he
      · exact before he met
      obtain rfl := List.mem_singleton.mp he
      have tidy : (identityOf earlier).Tidy :=
        (tidyLast earlier (List.mem_singleton_self _)).find? identityKey
      by_cases new : isNew table rows earlier = true
      · refine .inr ⟨(earlier, rows.length), ?_, met⟩
        simp [newcomers_concat, new]
      -- The last row is met by way of what it meets itself.
      · rw [isNew, List.all_eq_true] at new
        push Not at new
        obtain ⟨old, ho, reached⟩ := new
        have through := meets_trans tidy met (by simpa using reached)
        rcases List.mem_append.mp ho with ho | ho
        · exact .inl ⟨old, ho, through⟩
        · obtain ⟨other, he, rfl⟩ := List.mem_map.mp ho
          exact before he through

theorem newcomer_not_lt (tidyRows : ∀ row ∈ rows, (Value.object row).Tidy)
    (tidyRow : (Value.object row).Tidy) {i j : Nat} {a b : Members × Nat}
    (hi : (newcomers table rows)[i]? = some a) (hj : (newcomers table rows)[j]? = some b)
    (ha : meets row (.object a.1) = true) (hb : meets row (.object b.1) = true) : ¬i < j := by
  intro less
  obtain ⟨boundI, rfl⟩ := List.getElem?_eq_some_iff.mp hi
  obtain ⟨boundJ, rfl⟩ := List.getElem?_eq_some_iff.mp hj
  have apart := List.pairwise_iff_getElem.mp (newcomers_apart table rows) i j boundI boundJ less
  have tidyLater := tidyRows _ (mem_of_mem_newcomers (List.getElem_mem boundJ)).1
  rw [meets_of_meets (tidyRow.find? _) (tidyLater.find? _) hb ha] at apart
  cases apart

end Newcomers

section Steps

theorem held_nil (ignore : Bool) (table : Table) : held ignore table [] = table :=
  List.ext_getElem? fun k => by cases ignore <;> simp [held, mergedWith]

/-- One more row of a payload is merged onto the first row of the table that it meets. -/
theorem held_concat (ignore : Bool) (table : Table) (rows : List Members)
    (row : Members) : held ignore table (rows ++ [row]) =
      match table.findIdx? (meets row) with
      | none => held ignore table rows
      | some k => if ignore then held ignore table rows
          else patchAt row k (held ignore table rows) := by
  cases found : table.findIdx? (meets row) with
  | none => simp [held, found]
  | some i =>
      refine List.ext_getElem? fun k => ?_
      by_cases here : k = i
      · subst here
        cases ignore <;> cases table[k]? <;>
          simp [held, getElem?_patchAt, found, mergedWith_concat, Function.comp_def]
      · have elsewhere : ¬i = k := fun h => here h.symm
        cases ignore <;> simp [held, getElem?_patchAt, found, here, elsewhere]

theorem mergedWith_newcomer (ignore : Bool) (row : Members) {entry : Members × Nat}
    (member : entry ∈ newcomers table rows) :
    mergedWith ignore (((rows ++ [row]).drop (entry.2 + 1)).filter (meets · (.object entry.1)))
        (.object entry.1) =
      let old := mergedWith ignore ((rows.drop (entry.2 + 1)).filter (meets · (.object entry.1)))
        (.object entry.1)
      if meets row (.object entry.1) && !ignore then old.patched row else old := by
  obtain ⟨-, bound, -⟩ := mem_of_mem_newcomers member
  rw [List.drop_append_of_le_length bound, List.filter_append]
  cases met : meets row (.object entry.1) <;> cases ignore <;>
    simp [met, mergedWith]

theorem added_concat_of_new (ignore : Bool) (new : isNew table rows row = true) :
    added ignore table (rows ++ [row]) = added ignore table rows ++ [.object row] := by
  have unmet := (isNew_iff.mp new).2
  simp only [added, newcomers_concat, new, if_true, List.map_append, List.map_singleton]
  congr 1
  · refine List.map_congr_left fun entry he => ?_
    simp [mergedWith_newcomer ignore row he, unmet entry.1 (mem_of_mem_newcomers he).1]
  · cases ignore <;> simp [mergedWith]

theorem added_concat_of_old (tidyRows : ∀ row ∈ rows, (Value.object row).Tidy)
    (tidyRow : (Value.object row).Tidy) (ignore : Bool) (old : isNew table rows row = false) :
    added ignore table (rows ++ [row]) =
      match (newcomers table rows).findIdx? fun entry => meets row (.object entry.1) with
      | none => added ignore table rows
      | some j => if ignore then added ignore table rows
          else patchAt row j (added ignore table rows) := by
  have same : newcomers table (rows ++ [row]) = newcomers table rows := by
    simp [newcomers_concat, old]
  cases found : (newcomers table rows).findIdx? fun entry => meets row (.object entry.1) with
  | none =>
      rw [added, same]
      refine List.map_congr_left fun entry he => ?_
      have unmet := List.findIdx?_eq_none_iff.mp found entry he
      simp [mergedWith_newcomer ignore row he, unmet]
  | some j =>
      obtain ⟨bound, met, -⟩ := List.findIdx?_eq_some_iff_getElem.mp found
      have there := List.getElem?_eq_getElem bound
      refine List.ext_getElem? fun k => ?_
      rw [added, same, List.getElem?_map]
      cases hk : (newcomers table rows)[k]? with
      | none => cases ignore <;> simp [added, getElem?_patchAt, hk]
      | some entry =>
          have member := List.mem_of_getElem? hk
          have only : meets row (.object entry.1) = true ↔ k = j := by
            constructor
            · intro met'
              have := newcomer_not_lt tidyRows tidyRow hk there met' met
              have := newcomer_not_lt tidyRows tidyRow there hk met met'
              omega
            · rintro rfl
              obtain rfl := Option.some.inj (there.symm.trans hk)
              exact met
          cases ignore <;>
            simp [mergedWith_newcomer _ row member, added, getElem?_patchAt, hk, only,
              apply_ite some]

end Steps

section Run

theorem patchAt_append_length_add (patch : Members) (front : Table) (j : Nat)
    (behind : Table) :
    patchAt patch (front.length + j) (front ++ behind) = front ++ patchAt patch j behind := by
  induction front with
  | nil => simp
  | cons row rest ih => simp [patchAt, Nat.succ_add, ih]

theorem upsertRows_concat {ignore : Bool} {positions : List Nat} {left : Table}
    (run : upsertRows ignore rows table = (.ok positions, left)) :
    upsertRows ignore (rows ++ [row]) table =
      match upsertRow ignore row left with
      | .error fault => (.error fault, left)
      | .ok (i, left) => (.ok (positions ++ [i]), left) := by
  induction rows generalizing table positions with
  | nil =>
      obtain ⟨rfl, rfl⟩ : positions = [] ∧ left = table := by
        simpa [upsertRows, eq_comm] using run
      cases h : upsertRow ignore row left <;> simp [upsertRows, h, Except.map]
  | cons first rest ih =>
      rw [upsertRows] at run
      cases h : upsertRow ignore first table with
      | error fault => simp [h] at run
      | ok placed =>
          obtain ⟨i, middle⟩ := placed
          simp only [h, Prod.mk.injEq] at run
          obtain ⟨answer, rfl⟩ := run
          obtain ⟨others, ho, rfl⟩ := Outcome.map_eq_ok_iff.mp answer
          have tail := ih (Prod.ext ho rfl)
          simp only [List.cons_append, upsertRows, h, tail]
          cases upsertRow ignore row (upsertRows ignore rest middle).2 <;> rfl

theorem length_held (ignore : Bool) (table : Table) (rows : List Members) :
    (held ignore table rows).length = table.length :=
  List.length_mapIdx

theorem length_added (ignore : Bool) (table : Table) (rows : List Members) :
    (added ignore table rows).length = (newcomers table rows).length :=
  List.length_map _

theorem findIdx?_congr {α β : Type} {as : List α} {bs : List β} {p : α → Bool} {q : β → Bool}
    (length : as.length = bs.length)
    (same : ∀ (i : Nat) (a : α) (b : β), as[i]? = some a → bs[i]? = some b → p a = q b) :
    as.findIdx? p = bs.findIdx? q := by
  have decisions : as.map p = bs.map q := by
    refine List.ext_getElem (by simpa using length) fun i hi hj => ?_
    rw [List.length_map] at hi hj
    simpa using same i _ _ (List.getElem?_eq_getElem hi) (List.getElem?_eq_getElem hj)
  have found := congrArg (List.findIdx? id) decisions
  simpa only [List.findIdx?_map, Function.id_comp] using found

variable (objects : ∀ row ∈ table, row.isObject = true) (tidy : ∀ row ∈ table, row.identity.Tidy)
  (tidyRows : ∀ row ∈ rows, (Value.object row).Tidy) (ignore : Bool)

include objects tidy tidyRows

theorem continues_held {k : Nat} {old new : Value} (ho : table[k]? = some old)
    (hn : (held ignore table rows)[k]? = some new) : Continues old new := by
  obtain ⟨bound, rfl⟩ := List.getElem?_eq_some_iff.mp ho
  have member : table[k] ∈ table := List.getElem_mem bound
  simp only [held, List.getElem?_mapIdx, ho, Option.map_some, Option.some.injEq] at hn
  rw [← hn]
  refine continues_mergedWith (objects _ member) (tidy _ member) ?_ ?_ ignore
  · exact fun row hr => tidyRows row (List.mem_filter.mp hr).1
  · intro row hr
    have found := of_decide_eq_true (List.mem_filter.mp hr).2
    exact (List.findIdx?_eq_some_iff_getElem.mp found).2.1

omit objects tidy in
theorem continues_added {j : Nat} {entry : Members × Nat} {new : Value}
    (he : (newcomers table rows)[j]? = some entry)
    (hn : (added ignore table rows)[j]? = some new) : Continues (.object entry.1) new := by
  have tidyEntry : (Value.object entry.1).identity.Tidy :=
    (tidyRows _ (mem_of_mem_newcomers (List.mem_of_getElem? he)).1).find? identityKey
  simp only [added, List.getElem?_map, he, Option.map_some, Option.some.injEq] at hn
  rw [← hn]
  refine continues_mergedWith rfl tidyEntry ?_ ?_ ignore
  · exact fun row hr => tidyRows row (List.mem_of_mem_drop (List.mem_filter.mp hr).1)
  · exact fun row hr => (List.mem_filter.mp hr).2

theorem objects_upserted :
    ∀ row ∈ upserted ignore table rows, row.isObject = true := by
  intro row hr
  rcases List.mem_append.mp hr with hr | hr
  · obtain ⟨k, hk⟩ := List.mem_iff_getElem?.mp hr
    obtain ⟨bound, -⟩ := List.getElem?_eq_some_iff.mp hk
    have there := List.getElem?_eq_getElem (length_held ignore table rows ▸ bound)
    exact (continues_held objects tidy tidyRows ignore there hk).object
  · obtain ⟨j, hj⟩ := List.mem_iff_getElem?.mp hr
    obtain ⟨bound, -⟩ := List.getElem?_eq_some_iff.mp hj
    have there := List.getElem?_eq_getElem (length_added ignore table rows ▸ bound)
    exact (continues_added tidyRows ignore there hj).object

theorem findIdx?_upserted (row : Members) :
    (upserted ignore table rows).findIdx? (meets row) =
      (table.findIdx? (meets row)).or
        (((newcomers table rows).findIdx? fun entry => meets row (.object entry.1)).map
          (· + table.length)) := by
  have front := findIdx?_congr (length_held ignore table rows) fun i new old hn ho =>
    (continues_held objects tidy tidyRows ignore ho hn).meets row
  have behind := findIdx?_congr (length_added ignore table rows) fun i new entry hn he =>
    (continues_added tidyRows ignore he hn).meets row
  rw [upserted, List.findIdx?_append, length_held, front, behind]

omit objects tidy ignore in
theorem newcomers_unmet {k : Nat} (tidyRow : (Value.object row).Tidy)
    (found : table.findIdx? (meets row) = some k) :
    ((newcomers table rows).findIdx? fun entry => meets row (.object entry.1)) = none := by
  obtain ⟨bound, met, -⟩ := List.findIdx?_eq_some_iff_getElem.mp found
  refine List.findIdx?_eq_none_iff.mpr fun entry he => Bool.eq_false_iff.mpr fun met' => ?_
  obtain ⟨member, -, fresh⟩ := mem_of_mem_newcomers he
  have reached := meets_of_meets (tidyRow.find? _) ((tidyRows _ member).find? _) met' met
  rw [fresh _ (List.getElem_mem bound)] at reached
  cases reached

omit objects tidy ignore in
theorem exists_newcomer (absent : table.findIdx? (meets row) = none)
    (old : isNew table rows row = false) :
    ∃ j, ((newcomers table rows).findIdx? fun entry => meets row (.object entry.1)) = some j := by
  refine Option.ne_none_iff_exists'.mp fun unmet => ?_
  have notTable := List.findIdx?_eq_none_iff.mp absent
  have notNew := List.findIdx?_eq_none_iff.mp unmet
  refine Bool.false_ne_true (old.symm.trans (isNew_iff.mpr ⟨notTable, fun earlier he => ?_⟩))
  refine Bool.eq_false_iff.mpr fun met => ?_
  rcases exists_met tidyRows he met with ⟨other, ho, reached⟩ | ⟨first, hf, reached⟩
  · exact Bool.false_ne_true ((notTable other ho).symm.trans reached)
  · exact Bool.false_ne_true ((notNew first hf).symm.trans reached)

theorem upsertRow_upserted (tidyRow : (Value.object row).Tidy) :
    ∃ k, upsertRow ignore row (upserted ignore table rows) =
        .ok (k, upserted ignore table (rows ++ [row])) ∧
      StandsAt table (rows ++ [row]) (row, rows.length) k := by
  rw [upsertRow_eq_of_meets (objects_upserted objects tidy tidyRows ignore),
    findIdx?_upserted objects tidy tidyRows ignore row]
  simp only [upserted, held_concat]
  cases found : table.findIdx? (meets row) with
  | some k =>
      obtain ⟨bound, met, -⟩ := List.findIdx?_eq_some_iff_getElem.mp found
      have old : isNew table rows row = false := by
        refine Bool.eq_false_iff.mpr fun new => ?_
        have unmet := (isNew_iff.mp new).1 _ (List.getElem_mem bound)
        exact Bool.false_ne_true (unmet.symm.trans met)
      have unmet := newcomers_unmet tidyRows tidyRow found
      refine ⟨k, ?_, .merged found⟩
      rw [added_concat_of_old tidyRows tidyRow ignore old, unmet]
      cases ignore with
      | true => rfl
      | false =>
          rw [← length_held false table rows] at bound
          simp [patchAt_append_of_lt row bound]
  | none =>
      cases new : isNew table rows row with
      | true =>
          have unmet : ((newcomers table rows).findIdx? fun entry =>
              meets row (.object entry.1)) = none := by
            refine List.findIdx?_eq_none_iff.mpr fun entry he => ?_
            exact (isNew_iff.mp new).2 _ (mem_of_mem_newcomers he).1
          refine ⟨table.length + (newcomers table rows).length, ?_, .appended ?_⟩
          · rw [unmet, added_concat_of_new ignore new]
            simp [length_held, length_added]
          · simp [newcomers_concat, new]
      | false =>
          obtain ⟨j, here⟩ := exists_newcomer tidyRows found new
          obtain ⟨bound, met, -⟩ := List.findIdx?_eq_some_iff_getElem.mp here
          have there := List.getElem?_eq_getElem bound
          refine ⟨table.length + j, ?_, .joined found ?_ ?_ met⟩
          · rw [added_concat_of_old tidyRows tidyRow ignore new, here]
            cases ignore with
            | true => simp [Nat.add_comm]
            | false =>
                have behind := patchAt_append_length_add row (held false table rows) j
                  (added false table rows)
                rw [length_held] at behind
                simp [Nat.add_comm j, behind]
          · simp [newcomers_concat, new, there]
          · exact (mem_of_mem_newcomers (List.getElem_mem bound)).2.1

omit objects tidy tidyRows ignore in
theorem StandsAt.concat {entry : Members × Nat} {k : Nat} (h : StandsAt table rows entry k)
    (row : Members) : StandsAt table (rows ++ [row]) entry k := by
  have kept {j : Nat} {first : Members × Nat}
      (new : (newcomers table rows)[j]? = some first) :
      (newcomers table (rows ++ [row]))[j]? = some first := by
    obtain ⟨bound, -⟩ := List.getElem?_eq_some_iff.mp new
    rw [newcomers_concat, List.getElem?_append_left bound, new]
  cases h with
  | merged found => exact .merged found
  | appended new => exact .appended (kept new)
  | joined absent new before met => exact .joined absent (kept new) before met

theorem upsertRows_upserted :
    ∃ positions, upsertRows ignore rows table = (.ok positions, upserted ignore table rows) ∧
      List.Forall₂ (StandsAt table rows) rows.zipIdx positions := by
  induction rows using List.reverseRecOn with
  | nil =>
      refine ⟨[], ?_, .nil⟩
      rw [upserted, held_nil]
      simp [upsertRows, added, newcomers]
  | append_singleton rows row ih =>
      obtain ⟨tidies, tidyRow⟩ := List.forall_mem_append.mp tidyRows
      obtain ⟨positions, run, stand⟩ := ih tidies
      obtain ⟨k, last, here⟩ :=
        upsertRow_upserted objects tidy tidies ignore (tidyRow row (by simp))
      refine ⟨positions ++ [k], ?_, ?_⟩
      · rw [upsertRows_concat run, last]
      · rw [List.zipIdx_append]
        refine List.rel_append (stand.imp fun entry k h => h.concat row) ?_
        simpa using here

end Run

section Positions

theorem StandsAt.lt_length {entry : Members × Nat} {k : Nat}
    (h : StandsAt table rows entry k) (ignore : Bool) :
    k < (upserted ignore table rows).length := by
  rw [upserted, List.length_append, length_held, length_added]
  cases h with
  | merged found =>
      exact Nat.lt_add_right _ (List.findIdx?_eq_some_iff_getElem.mp found).1
  | appended new => exact Nat.add_lt_add_left (List.getElem?_eq_some_iff.mp new).1 _
  | joined _ new _ _ => exact Nat.add_lt_add_left (List.getElem?_eq_some_iff.mp new).1 _

theorem map_some_rowsAt {positions : List Nat} (inside : ∀ k ∈ positions, k < table.length) :
    (table.rowsAt positions).map some = positions.map (table[·]?) := by
  induction positions with
  | nil => rfl
  | cons k rest ih =>
      obtain ⟨here, others⟩ := List.forall_mem_cons.mp inside
      have there := List.getElem?_eq_getElem here
      rw [rowsAt, List.filterMap_cons_some there, List.map_cons, List.map_cons, there]
      exact congrArg _ (ih others)

theorem objectsOf_map_object (rows : List Members) :
    objectsOf (rows.map Value.object) = .ok rows := by
  induction rows with
  | nil => rfl
  | cons row rest ih => simp [objectsOf, ih, Except.map]

theorem payloadRows_map_object (filled : rows ≠ []) :
    payloadRows (.array (rows.map Value.object)) = .ok rows := by
  cases rows with
  | nil => exact absurd rfl filled
  | cons row rest => exact objectsOf_map_object (row :: rest)

end Positions

end Table

namespace Store

open Table

/-- An upsert of rows leaves the table in closed form, and gives for every row the one that it was
appended as or merged onto, in its final state. -/
theorem touched_upsert {s : Store} {name : String} {rows : List Members}
    (objects : ∀ row ∈ s.rows name, row.isObject = true)
    (tidy : ∀ row ∈ s.rows name, row.identity.Tidy) (filled : rows ≠ [])
    (tidyRows : ∀ row ∈ rows, (Value.object row).Tidy) (ignore : Bool) :
    ∃ results, touched name (s.upsert name (.array (rows.map Value.object)) ignore) =
        (.ok results, s.put name (upserted ignore (s.rows name) rows)) ∧
      results.length = rows.length ∧
      ∀ i row, rows[i]? = some row → ∃ k, StandsAt (s.rows name) rows (row, i) k ∧
        results[i]? = (upserted ignore (s.rows name) rows)[k]? := by
  obtain ⟨positions, run, stand⟩ := upsertRows_upserted objects tidy tidyRows ignore
  have inside : ∀ k ∈ positions, k < (upserted ignore (s.rows name) rows).length := by
    intro k hk
    obtain ⟨i, hi⟩ := List.mem_iff_getElem?.mp hk
    obtain ⟨bound, rfl⟩ := List.getElem?_eq_some_iff.mp hi
    exact (stand.get (stand.length_eq ▸ bound) bound).lt_length ignore
  have given := map_some_rowsAt inside
  refine ⟨(upserted ignore (s.rows name) rows).rowsAt positions, ?_, ?_, ?_⟩
  · simp [touched, upsert, payloadRows_map_object filled, run, Except.mapError, Except.map]
  · have lengths := congrArg List.length given
    have placed := stand.length_eq
    simp only [List.length_map, List.length_zipIdx] at lengths placed
    exact lengths.trans placed.symm
  · intro i row hr
    obtain ⟨bound, rfl⟩ := List.getElem?_eq_some_iff.mp hr
    have placed : i < rows.zipIdx.length := by simpa using bound
    have found := stand.get placed (stand.length_eq ▸ placed)
    rw [List.get_eq_getElem, List.getElem_zipIdx, Nat.zero_add] at found
    refine ⟨_, found, ?_⟩
    have here := congrArg (·[i]?) given
    simp only [List.getElem?_map, List.getElem?_eq_getElem (stand.length_eq ▸ placed)] at here
    obtain ⟨result, hr, there⟩ := Option.map_eq_some_iff.mp here
    exact hr.trans there

def twinPosts : Store :=
  ⟨[("posts", [.object [("id", .ofInt 1)], .object [("id", .ofInt 1), ("title", .string "twin")],
    .object [("title", .string "draft")]])]⟩

def postBatch : List Members :=
  [[("id", .bool true), ("title", .string "first")], [("id", .ofInt 2)],
    [("title", .string "loose")], [("title", .string "last"), ("id", .ofInt 2)]]

theorem touched_upsert_of_postBatch :
    ∃ results, touched "posts" (twinPosts.upsert "posts" (.array (postBatch.map .object)) false) =
        (.ok results, twinPosts.put "posts" [
          .object [("id", .bool true), ("title", .string "first")],
          .object [("id", .ofInt 1), ("title", .string "twin")],
          .object [("title", .string "draft")],
          .object [("id", .ofInt 2), ("title", .string "last")],
          .object [("title", .string "loose")]]) ∧
      results.length = 4 := by
  have objects : ∀ row ∈ twinPosts.rows "posts", row.isObject = true := by
    simp [twinPosts, rows, Entries.find?, Value.isObject, Value.members?]
  have tidy : ∀ row ∈ twinPosts.rows "posts", row.identity.Tidy := by
    intro row hr
    simp only [twinPosts, rows, Entries.find?, if_true, Option.getD_some, List.mem_cons,
      List.not_mem_nil, or_false] at hr
    rcases hr with rfl | rfl | rfl
    · exact .number _
    · exact .number _
    · exact .null
  have tidyRows : ∀ row ∈ postBatch, (Value.object row).Tidy := by
    intro row hr
    simp only [postBatch, List.mem_cons, List.not_mem_nil, or_false] at hr
    rcases hr with rfl | rfl | rfl | rfl
    · exact .object (by decide) (by simpa using ⟨.bool true, .string _⟩)
    · exact .object (by decide) (by simpa using .number _)
    · exact .object (by decide) (by simpa using .string _)
    · exact .object (by decide) (by simpa using ⟨.string _, .number _⟩)
  obtain ⟨results, left, length, -⟩ :=
    touched_upsert objects tidy (List.cons_ne_nil _ _) tidyRows false
  exact ⟨results, left, length⟩

end Store

end TableServer
