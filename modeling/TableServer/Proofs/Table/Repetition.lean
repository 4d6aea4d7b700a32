import TableServer.Proofs.Table.Choice
import TableServer.Proofs.Value.Reader

/-! Repeated writes to a table. A row that was upserted has a settled place: it is the first with
its identity, and no later row of the payload moves it. So a second upsert merges every row where
the first one did, and merging twice changes nothing. -/
namespace TableServer

namespace Value

def identity : Value → Value
  | object members => Table.identityOf members
  | _ => null

/-- Values that equal themselves and are told by what they equal. -/
structure Definite (v : Value) : Prop where
  free : NanFree v
  tidy : Tidy v

theorem Tidy.find? {members : Members} (h : (Value.object members).Tidy) (name : Codes) :
    ((Entries.find? name members).getD .null).Tidy := by
  cases h with
  | object _ tidy =>
      cases hf : Entries.find? name members with
      | none => exact .null
      | some v => exact tidy _ (Entries.mem_of_find? hf)

theorem patched_append (first second : Members) (row : Value) :
    row.patched (first ++ second) = (row.patched first).patched second := by
  cases row with
  | object members => simp only [patched, Entries.merge_append]
  | _ => rfl

theorem patched_nil (row : Value) : row.patched [] = row := by
  cases row <;> rfl

theorem patched_patched (patch : Members) (row : Value) :
    (row.patched patch).patched patch = row.patched patch := by
  cases row with
  | object members => simp only [patched, Entries.merge_merge_self]
  | _ => rfl

end Value

namespace Table

section Payload

theorem tidy_of_objectsOf {items : List Value} (tidy : ∀ v ∈ items, v.Tidy)
    {rows : List Members} (h : objectsOf items = .ok rows) :
    ∀ row ∈ rows, (Value.object row).Tidy := by
  induction items generalizing rows with
  | nil =>
      cases h
      simp
  | cons v rest ih =>
      cases v with
      | object members =>
          obtain ⟨others, ho, rfl⟩ := Outcome.map_eq_ok_iff.mp h
          have tail := ih (fun w hw => tidy w (by simp [hw])) ho
          intro row hr
          rcases List.mem_cons.mp hr with rfl | hr
          · exact tidy _ (by simp)
          · exact tail row hr
      | _ => cases h

theorem tidy_of_payloadRows {payload : Value} (tidy : payload.Tidy)
    {rows : List Members} (h : payloadRows payload = .ok rows) :
    ∀ row ∈ rows, (Value.object row).Tidy := by
  unfold payloadRows at h
  split at h
  · cases h
  · cases h
  · cases tidy with
    | array all => exact tidy_of_objectsOf all h
  · exact tidy_of_objectsOf (by simpa using tidy) h

end Payload

/-- A row of a payload that carries an identity without what is not a number. -/
structure Identifies (row : Members) : Prop where
  some : (identityOf row).isNull = false
  free : (identityOf row).NanFree

/-- A row of a payload that names every member once and carries an identity. -/
structure Identified (row : Members) : Prop where
  unique : (Entries.names row).Nodup
  definite : (identityOf row).Definite
  some : (identityOf row).isNull = false

variable {table : Table} {row : Members} {identity : Value}

theorem Identified.same_self (h : Identified row) :
    (identityOf row).same (identityOf row) = true :=
  Value.same_refl h.definite.free h.definite.tidy

theorem identity_patched (unique : (Entries.names row).Nodup)
    (present : (identityOf row).isNull = false) {old : Value} (object : old.isObject = true) :
    (old.patched row).identity = identityOf row := by
  have named : Entries.find? ↑identityKey row ≠ none := by
    intro absent
    simp [identityOf, absent, Value.isNull] at present
  obtain ⟨v, hv⟩ := Option.ne_none_iff_exists'.mp named
  cases old with
  | object members =>
      simp [Value.patched, Value.identity, identityOf, Entries.find?_merge unique, hv]
  | _ => cases object

section Places

theorem findFrom_eq (objects : ∀ row ∈ table, row.isObject = true) (start : Nat) :
    findFrom start identity table =
      .ok ((table.findIdx? fun row => row.identity.same identity).map (start + ·)) := by
  induction table generalizing start with
  | nil => rfl
  | cons row rest ih =>
      have object := objects row (by simp)
      have tail := ih fun other ho => objects other (by simp [ho])
      cases row with
      | object members =>
          have told : (Value.object members).identity = identityOf members := rfl
          rw [findFrom, List.findIdx?_cons, told]
          by_cases here : (identityOf members).same identity = true
          · simp [here]
          · have next (i : Nat) : start + 1 + i = start + (i + 1) := by omega
            simp [here, tail, Option.map_map, Function.comp_def, next]
      | _ => cases object

theorem findIdentity_eq (objects : ∀ row ∈ table, row.isObject = true)
    (present : identity.isNull = false) :
    findIdentity identity table =
      .ok (table.findIdx? fun row => row.identity.same identity) := by
  rw [findIdentity, present, findFrom_eq objects]
  simp

theorem getElem?_patchAt (patch : Members) (i : Nat) (table : Table) (k : Nat) :
    (patchAt patch i table)[k]? =
      if k = i then table[k]?.map (Value.patched patch) else table[k]? := by
  induction table generalizing i k with
  | nil => cases i <;> simp [patchAt]
  | cons row rest ih =>
      cases i with
      | zero => cases k <;> cases row <;> simp [patchAt, Value.patched]
      | succ i => cases k <;> simp [patchAt, ih]

theorem upsertRow_eq (objects : ∀ row ∈ table, row.isObject = true)
    (present : (identityOf row).isNull = false) (ignore : Bool) :
    upsertRow ignore row table =
      .ok (match table.findIdx? fun old => old.identity.same (identityOf row) with
        | none => (table.length, table ++ [.object row])
        | .some i => (i, if ignore then table else patchAt row i table)) := by
  rw [upsertRow, findIdentity_eq objects present]
  rfl

end Places

section Kept

variable {p : Value → Prop} (held : ∀ row ∈ table, p row)
include held

theorem forall_rowsAt (positions : List Nat) : ∀ row ∈ table.rowsAt positions, p row := by
  intro row hr
  obtain ⟨i, -, hi⟩ := List.mem_filterMap.mp hr
  exact held row (List.mem_of_getElem? hi)

theorem forall_append (rows : List Members) (brought : ∀ row ∈ rows, p (.object row)) :
    ∀ row ∈ table.append rows, p row := by
  intro row hr
  rcases List.mem_append.mp hr with hr | hr
  · exact held row hr
  · obtain ⟨members, hm, rfl⟩ := List.mem_map.mp hr
    exact brought members hm

theorem forall_patchAt {patch : Members} (patched : ∀ row, p row → p (row.patched patch))
    (i : Nat) : ∀ row ∈ patchAt patch i table, p row := by
  intro row hr
  obtain ⟨k, hk⟩ := List.mem_iff_getElem?.mp hr
  rw [getElem?_patchAt] at hk
  split at hk
  · obtain ⟨old, ho, rfl⟩ := Option.map_eq_some_iff.mp hk
    exact patched old (held old (List.mem_of_getElem? ho))
  · exact held row (List.mem_of_getElem? hk)

end Kept

theorem objects_patchAt (objects : ∀ row ∈ table, row.isObject = true) (patch : Members)
    (i : Nat) : ∀ row ∈ patchAt patch i table, row.isObject = true :=
  forall_patchAt objects (fun _ object => Value.isObject_patched object patch) i

theorem objects_append (objects : ∀ row ∈ table, row.isObject = true) (row : Members) :
    ∀ old ∈ table ++ [Value.object row], old.isObject = true :=
  forall_append objects [row] fun _ _ => rfl

theorem upsertRows_objects (ignore : Bool) (rows : List Members)
    (objects : ∀ row ∈ table, row.isObject = true) :
    (∃ positions, (upsertRows ignore rows table).1 = .ok positions) ∧
      ∀ row ∈ (upsertRows ignore rows table).2, row.isObject = true := by
  induction rows generalizing table with
  | nil => exact ⟨⟨[], rfl⟩, objects⟩
  | cons row rest ih =>
      obtain ⟨found, hf⟩ : ∃ found, findIdentity (identityOf row) table = .ok found := by
        unfold findIdentity
        split
        · exact ⟨none, rfl⟩
        · exact ⟨_, findFrom_eq objects 0⟩
      rw [upsertRows, upsertRow, hf]
      cases found with
      | none =>
          obtain ⟨⟨positions, hp⟩, left⟩ := ih (objects_append objects row)
          exact ⟨⟨table.length :: positions, congrArg (Except.map _) hp⟩, left⟩
      | some i =>
          have patched : ∀ old ∈ (if ignore then table else patchAt row i table),
              old.isObject = true := by
            split
            · exact objects
            · exact objects_patchAt objects row i
          obtain ⟨⟨positions, hp⟩, left⟩ := ih patched
          exact ⟨⟨i :: positions, congrArg (Except.map _) hp⟩, left⟩

section Ignoring

/-- Where duplicates are ignored an upsert only appends, and afterwards every identity of the
payload is there. -/
theorem upsertRows_ignoring {rows : List Members}
    (identified : ∀ row ∈ rows, Identified row) (objects : ∀ row ∈ table, row.isObject = true) :
    ∃ positions added, upsertRows true rows table = (.ok positions, table ++ added) ∧
      (∀ row ∈ added, row.isObject = true) ∧
      ∀ row ∈ rows, ∃ old ∈ table ++ added, old.identity.same (identityOf row) = true := by
  induction rows generalizing table with
  | nil => exact ⟨[], [], by simp [upsertRows], by simp, by simp⟩
  | cons row rest ih =>
      have head := identified row (by simp)
      have tail : ∀ row ∈ rest, Identified row := fun other ho => identified other (by simp [ho])
      rw [upsertRows, upsertRow_eq objects head.some]
      cases found : table.findIdx? fun old => old.identity.same (identityOf row) with
      | some i =>
          obtain ⟨positions, added, run, fresh, present⟩ := ih tail objects
          refine ⟨i :: positions, added, by simp [run, Except.map], fresh, ?_⟩
          intro other ho
          rcases List.mem_cons.mp ho with rfl | ho
          · obtain ⟨bound, same, -⟩ := List.findIdx?_eq_some_iff_getElem.mp found
            exact ⟨_, List.mem_append_left _ (List.getElem_mem bound), same⟩
          · exact present other ho
      | none =>
          obtain ⟨positions, added, run, fresh, present⟩ := ih tail (objects_append objects row)
          rw [List.append_assoc] at run present
          refine ⟨table.length :: positions, Value.object row :: added, by simp [run, Except.map],
            ?_, ?_⟩
          · intro old ho
            rcases List.mem_cons.mp ho with rfl | ho
            · rfl
            · exact fresh old ho
          · intro other ho
            rcases List.mem_cons.mp ho with rfl | ho
            · exact ⟨.object other, by simp, head.same_self⟩
            · exact present other ho

theorem upsertRows_present {rows : List Members}
    (identified : ∀ row ∈ rows, Identified row) (objects : ∀ row ∈ table, row.isObject = true)
    (present : ∀ row ∈ rows, ∃ old ∈ table, old.identity.same (identityOf row) = true) :
    (upsertRows true rows table).2 = table := by
  induction rows with
  | nil => rfl
  | cons row rest ih =>
      have head := identified row (by simp)
      have tail := ih (fun other ho => identified other (by simp [ho]))
        fun other ho => present other (by simp [ho])
      rw [upsertRows, upsertRow_eq objects head.some]
      cases found : table.findIdx? fun old => old.identity.same (identityOf row) with
      | some i => simpa using tail
      | none =>
          obtain ⟨old, member, same⟩ := present row (by simp)
          have absent := List.findIdx?_eq_none_iff.mp found old member
          rw [same] at absent
          cases absent

end Ignoring

theorem patchAt_append_of_lt (patch : Members) {i : Nat} (bound : i < table.length)
    (behind : Table) : patchAt patch i (table ++ behind) = patchAt patch i table ++ behind := by
  induction table generalizing i with
  | nil => cases bound
  | cons old rest ih =>
      cases i with
      | zero => cases old <;> rfl
      | succ i => simp [patchAt, ih (Nat.lt_of_succ_lt_succ bound)]

section Merging

def patches (placed : List (Nat × Members)) (table : Table) : Table :=
  placed.foldl (fun table p => patchAt p.2 p.1 table) table

theorem patches_cons (p : Nat × Members) (rest : List (Nat × Members))
    (table : Table) : patches (p :: rest) table = patches rest (patchAt p.2 p.1 table) :=
  rfl

def patchFor (k : Nat) (placed : List (Nat × Members)) : Members :=
  (placed.filter (·.1 = k)).flatMap (·.2)

theorem getElem?_patches (placed : List (Nat × Members)) (table : Table) (k : Nat) :
    (patches placed table)[k]? = table[k]?.map (Value.patched (patchFor k placed)) := by
  induction placed generalizing table with
  | nil =>
      have same : Value.patched (patchFor k []) = id := funext Value.patched_nil
      rw [same, Option.map_id_fun, id]
      rfl
  | cons p rest ih =>
      have step := ih (patchAt p.2 p.1 table)
      rw [getElem?_patchAt] at step
      refine step.trans ?_
      by_cases here : k = p.1
      · have both : Value.patched (patchFor k (p :: rest)) =
            Value.patched (patchFor k rest) ∘ Value.patched p.2 := by
          funext row
          simp [patchFor, here, Value.patched_append]
        rw [if_pos here, Option.map_map, both]
      · have apart : patchFor k (p :: rest) = patchFor k rest := by
          simp [patchFor, Ne.symm here]
        rw [if_neg here, apart]

theorem patches_patches (placed : List (Nat × Members)) (table : Table) :
    patches placed (patches placed table) = patches placed table := by
  refine List.ext_getElem? fun k => ?_
  rw [getElem?_patches, getElem?_patches, Option.map_map]
  congr 1
  funext row
  exact Value.patched_patched _ row

/-- The first row with an identity is the one at a position, and its own identity is told by what it
equals. -/
structure Settled (table : Table) (position : Nat) (identity : Value) : Prop where
  first : ∀ q < position, ∀ row, table[q]? = some row → row.identity.same identity = false
  there : ∃ row, table[position]? = some row ∧ row.identity.Definite ∧
    row.identity.same identity = true

variable {position : Nat}

theorem Settled.findIdx? (h : Settled table position identity) :
    table.findIdx? (fun row => row.identity.same identity) = some position := by
  obtain ⟨row, there, -, same⟩ := h.there
  obtain ⟨bound, rfl⟩ := List.getElem?_eq_some_iff.mp there
  refine List.findIdx?_eq_some_iff_getElem.mpr ⟨bound, same, fun q hq => ?_⟩
  have before := h.first q hq _ (List.getElem?_eq_getElem (Nat.lt_trans hq bound))
  simp [before]

theorem exists_merged (objects : ∀ row ∈ table, row.isObject = true) (h : Identified row) {i : Nat}
    (found : table.findIdx? (fun old => old.identity.same (identityOf row)) = some i) :
    ∃ old, table[i]? = some old ∧ old.identity.same (identityOf row) = true ∧
      (patchAt row i table)[i]? = some (old.patched row) ∧
      (old.patched row).identity = identityOf row := by
  obtain ⟨bound, same, -⟩ := List.findIdx?_eq_some_iff_getElem.mp found
  have here : table[i]? = some table[i] := List.getElem?_eq_getElem bound
  refine ⟨table[i], here, same, ?_,
    identity_patched h.unique h.some (objects _ (List.getElem_mem bound))⟩
  rw [getElem?_patchAt, if_pos rfl, here, Option.map_some]

theorem settled_merged (objects : ∀ row ∈ table, row.isObject = true) (h : Identified row)
    {i : Nat} (found : table.findIdx? (fun old => old.identity.same (identityOf row)) = some i) :
    Settled (patchAt row i table) i (identityOf row) := by
  obtain ⟨old, -, -, merged, identity⟩ := exists_merged objects h found
  obtain ⟨_, -, before⟩ := List.findIdx?_eq_some_iff_getElem.mp found
  refine ⟨fun q hq other ho => ?_, old.patched row, merged, ?_, ?_⟩
  · rw [getElem?_patchAt, if_neg (Nat.ne_of_lt hq)] at ho
    obtain ⟨bound, rfl⟩ := List.getElem?_eq_some_iff.mp ho
    simpa using before q hq
  · rw [identity]
    exact h.definite
  · rw [identity]
    exact h.same_self

theorem Settled.patchAt (settled : Settled table position identity)
    (objects : ∀ row ∈ table, row.isObject = true) (h : Identified row) {i : Nat}
    (found : table.findIdx? (fun old => old.identity.same (identityOf row)) = some i) :
    Settled (Table.patchAt row i table) position identity := by
  obtain ⟨old, here, same, merged, named⟩ := exists_merged objects h found
  constructor
  · intro q hq next hn
    by_cases at_i : q = i
    · subst at_i
      obtain rfl := Option.some.inj (merged.symm.trans hn)
      -- A row that equals both would have been the first of the settled identity.
      rw [named]
      by_contra alike
      have through := Value.same_trans h.definite.tidy same (Bool.of_not_eq_false alike)
      rw [settled.first q hq _ here] at through
      cases through
    · rw [getElem?_patchAt, if_neg at_i] at hn
      exact settled.first q hq next hn
  · obtain ⟨there, ht, definite, alike⟩ := settled.there
    by_cases at_i : position = i
    · subst at_i
      obtain rfl := Option.some.inj (here.symm.trans ht)
      have turned := Value.same_symm definite.tidy h.definite.tidy same
      refine ⟨old.patched row, merged, ?_, ?_⟩
      · rw [named]
        exact h.definite
      · rw [named]
        exact Value.same_trans definite.tidy turned alike
    · exact ⟨there, by rw [getElem?_patchAt, if_neg at_i, ht], definite, alike⟩

theorem settled_appended (h : Identified row)
    (absent : table.findIdx? (fun old => old.identity.same (identityOf row)) = none) :
    Settled (table ++ [.object row]) table.length (identityOf row) := by
  refine ⟨fun q hq other ho => ?_, .object row, List.getElem?_concat_length, h.definite, h.same_self⟩
  rw [List.getElem?_append_left hq] at ho
  simpa using List.findIdx?_eq_none_iff.mp absent other (List.mem_of_getElem? ho)

theorem Settled.append (settled : Settled table position identity) (behind : Table) :
    Settled (table ++ behind) position identity := by
  obtain ⟨old, there, definite, alike⟩ := settled.there
  have bound := (List.getElem?_eq_some_iff.mp there).1
  refine ⟨fun q hq next hn => ?_, old, ?_, definite, alike⟩
  · rw [List.getElem?_append_left (Nat.lt_trans hq bound)] at hn
    exact settled.first q hq next hn
  · rw [List.getElem?_append_left bound, there]

/-- What a merging upsert leaves: patches, put on the rows and on as many empty rows as it appends.
It settles every row of its payload where it was put. -/
structure Merges (rows : List Members) (table : Table) (positions : List Nat)
    (left : Table) : Prop where
  run : upsertRows false rows table = (.ok positions, left)
  length : positions.length = rows.length
  objects : ∀ row ∈ left, row.isObject = true
  patched : ∃ fresh, left = patches (positions.zip rows) (table ++ List.replicate fresh (.object []))
  settled : ∀ p ∈ positions.zip rows, Settled left p.1 (identityOf p.2)
  stay : ∀ position identity, Settled table position identity → Settled left position identity

namespace Merges

variable {rows : List Members} {positions : List Nat} {left : Table}

theorem nil (objects : ∀ row ∈ table, row.isObject = true) : Merges [] table [] table :=
  ⟨rfl, rfl, objects, ⟨0, by simp [patches]⟩, by simp, fun _ _ => id⟩

theorem settled_cons (h : Settled left position (identityOf row))
    (settled : ∀ p ∈ positions.zip rows, Settled left p.1 (identityOf p.2)) :
    ∀ p ∈ (position :: positions).zip (row :: rows), Settled left p.1 (identityOf p.2) := by
  intro p hp
  rcases List.mem_cons.mp hp with rfl | hp
  · exact h
  · exact settled p hp

theorem cons_found (objects : ∀ row ∈ table, row.isObject = true) (h : Identified row) {i : Nat}
    (found : table.findIdx? (fun old => old.identity.same (identityOf row)) = some i)
    (rest : Merges rows (Table.patchAt row i table) positions left) :
    Merges (row :: rows) table (i :: positions) left := by
  obtain ⟨bound, -⟩ := List.findIdx?_eq_some_iff_getElem.mp found
  obtain ⟨fresh, merged⟩ := rest.patched
  refine ⟨?_, congrArg (· + 1) rest.length, rest.objects, ⟨fresh, ?_⟩, ?_, ?_⟩
  · rw [upsertRows, upsertRow_eq objects h.some, found]
    simp [rest.run, Except.map]
  · rw [merged, List.zip_cons_cons, patches_cons, patchAt_append_of_lt _ bound]
  · exact settled_cons (rest.stay _ _ (settled_merged objects h found)) rest.settled
  · exact fun _ _ settled => rest.stay _ _ (settled.patchAt objects h found)

theorem cons_absent (objects : ∀ row ∈ table, row.isObject = true) (h : Identified row)
    (absent : table.findIdx? (fun old => old.identity.same (identityOf row)) = none)
    (rest : Merges rows (table ++ [.object row]) positions left) :
    Merges (row :: rows) table (table.length :: positions) left := by
  have blank : (Value.object []).patched row = .object row := by
    rw [Value.patched, Entries.merge_nil h.unique]
  obtain ⟨fresh, merged⟩ := rest.patched
  refine ⟨?_, congrArg (· + 1) rest.length, rest.objects, ⟨fresh + 1, ?_⟩, ?_, ?_⟩
  · rw [upsertRows, upsertRow_eq objects h.some, absent]
    simp [rest.run, Except.map]
  · rw [merged, List.zip_cons_cons, patches_cons, List.replicate_succ, patchAt_append, blank,
      List.append_assoc, List.singleton_append]
  · exact settled_cons (rest.stay _ _ (settled_appended h absent)) rest.settled
  · exact fun _ _ settled => rest.stay _ _ (settled.append _)

end Merges

theorem upsertRows_merging {rows : List Members}
    (identified : ∀ row ∈ rows, Identified row) (objects : ∀ row ∈ table, row.isObject = true) :
    ∃ positions left, Merges rows table positions left := by
  induction rows generalizing table with
  | nil => exact ⟨[], table, .nil objects⟩
  | cons row rest ih =>
      have head := identified row (by simp)
      have tail : ∀ row ∈ rest, Identified row := fun other ho => identified other (by simp [ho])
      cases found : table.findIdx? fun old => old.identity.same (identityOf row) with
      | some i =>
          obtain ⟨positions, left, merges⟩ := ih tail (objects_patchAt objects row i)
          exact ⟨i :: positions, left, .cons_found objects head found merges⟩
      | none =>
          obtain ⟨positions, left, merges⟩ := ih tail (objects_append objects row)
          exact ⟨table.length :: positions, left, .cons_absent objects head found merges⟩

theorem upsertRows_settled {rows : List Members}
    (identified : ∀ row ∈ rows, Identified row) (objects : ∀ row ∈ table, row.isObject = true)
    {positions : List Nat} (length : positions.length = rows.length)
    (settled : ∀ p ∈ positions.zip rows, Settled table p.1 (identityOf p.2)) :
    upsertRows false rows table = (.ok positions, patches (positions.zip rows) table) := by
  induction rows generalizing table positions with
  | nil =>
      obtain rfl := List.length_eq_zero_iff.mp length
      rfl
  | cons row rest ih =>
      cases positions with
      | nil => cases length
      | cons i positions =>
          have head := identified row (by simp)
          have found := (settled (i, row) (by simp)).findIdx?
          have tail := ih (fun other ho => identified other (by simp [ho]))
            (objects_patchAt objects row i) (by simpa using length)
            fun p hp => (settled p (by simp [hp])).patchAt objects head found
          rw [upsertRows, upsertRow_eq objects head.some, found]
          simp only [Bool.false_eq_true, if_false, tail]
          rfl

end Merging

theorem upsertRows_again {rows : List Members}
    (identified : ∀ row ∈ rows, Identified row) (objects : ∀ row ∈ table, row.isObject = true)
    (ignore : Bool) :
    (upsertRows ignore rows (upsertRows ignore rows table).2).2 =
      (upsertRows ignore rows table).2 := by
  cases ignore with
  | true =>
      obtain ⟨positions, added, run, fresh, present⟩ := upsertRows_ignoring identified objects
      rw [run]
      refine upsertRows_present identified (fun old ho => ?_) present
      exact (List.mem_append.mp ho).elim (objects old) (fresh old)
  | false =>
      obtain ⟨positions, left, merges⟩ := upsertRows_merging identified objects
      obtain ⟨fresh, patched⟩ := merges.patched
      have again := upsertRows_settled identified merges.objects merges.length merges.settled
      rw [merges.run, again]
      dsimp only
      rw [patched]
      exact patches_patches _ _

end Table

namespace Store

open RowPredicate

variable {s : Store} {name : String} {p : RowPredicate}

theorem put_put_self (s : Store) (name : String) (first second : Table) :
    (s.put name first).put name second = s.put name second := by
  simp only [put, Entries.put_put_self]

theorem upsert_again {payload : Value} (objects : ∀ row ∈ s.rows name, row.isObject = true)
    (identified : ∀ rows, Table.payloadRows payload = .ok rows → ∀ row ∈ rows, Table.Identified row)
    (ignore : Bool) :
    ((s.upsert name payload ignore).2.upsert name payload ignore).2 =
      (s.upsert name payload ignore).2 := by
  unfold upsert
  cases hp : Table.payloadRows payload with
  | error e => rfl
  | ok rows =>
      simp only [rows_put_self, put_put_self]
      rw [Table.upsertRows_again (identified rows hp) objects]

theorem update_cases (objects : ∀ row ∈ s.rows name, row.isObject = true) (payload : Value)
    (predicate : Option RowPredicate) :
    (s.update name predicate payload).2 = s ∨
      ∃ patch p, patchOf payload = .ok patch ∧ predicate = some p ∧
        (s.update name predicate payload).2 =
          s.put name ((s.rows name).map fun row =>
            if chooses p row then row.patched patch else row) := by
  unfold update
  cases hp : patchOf payload with
  | error e => exact .inl rfl
  | ok patch =>
      cases predicate with
      | none => exact .inl rfl
      | some p =>
          cases hd : (s.rows name).decide p with
          | error fault => exact .inl (by simp [hd])
          | ok decisions =>
              obtain ⟨-, rfl⟩ := Table.decide_eq_ok_iff.mp hd
              simp only [hd, Table.patchAll_choice patch (chooses p) objects]
              split
              · exact .inl rfl
              · exact .inr ⟨patch, p, rfl, rfl, rfl⟩

theorem update_again (objects : ∀ row ∈ s.rows name, row.isObject = true) (payload : Value)
    (predicate : Option RowPredicate) :
    ((s.update name predicate payload).2.update name predicate payload).2 =
      (s.update name predicate payload).2 := by
  rcases update_cases objects payload predicate with same | ⟨patch, p, hp, rfl, left⟩
  · rw [same, same]
  · rw [left]
    have objects' : ∀ row ∈ (s.put name ((s.rows name).map fun row =>
        if chooses p row then row.patched patch else row)).rows name, row.isObject = true := by
      intro row hr
      rw [rows_put_self] at hr
      obtain ⟨old, ho, rfl⟩ := List.mem_map.mp hr
      split
      · exact Value.isObject_patched (objects old ho) patch
      · exact objects old ho
    rcases update_cases objects' payload (some p) with same | ⟨patch', p', hp', told, left'⟩
    · exact same
    · cases hp.symm.trans hp'
      cases told
      rw [left', put_put_self, rows_put_self, List.map_map]
      congr 1
      refine List.map_congr_left fun row _ => ?_
      -- A row that is chosen anew had the patch already, or was not chosen before either.
      by_cases before : chooses p row = true
      · simp [before, Value.patched_patched]
      · simp [before]

theorem delete_cases (s : Store) (name : String) (predicate : Option RowPredicate) :
    (s.delete name predicate).2 = s ∨
      ∃ p, predicate = some p ∧
        (s.delete name predicate).2 = s.put name ((s.rows name).filter (!chooses p ·)) := by
  unfold delete
  cases predicate with
  | none => exact .inl rfl
  | some p =>
      cases hd : (s.rows name).decide p with
      | error fault => exact .inl (by simp [hd])
      | ok decisions =>
          obtain ⟨-, rfl⟩ := Table.decide_eq_ok_iff.mp hd
          simp only [hd, Table.part_choice]
          split
          · exact .inl rfl
          · exact .inr ⟨p, rfl, rfl⟩

theorem delete_again (s : Store) (name : String) (predicate : Option RowPredicate) :
    ((s.delete name predicate).2.delete name predicate).2 = (s.delete name predicate).2 := by
  rcases delete_cases s name predicate with same | ⟨p, rfl, left⟩
  · rw [same, same]
  · rw [left]
    rcases delete_cases (s.put name ((s.rows name).filter (!chooses p ·))) name (some p) with
      same | ⟨p', told, left'⟩
    · exact same
    · cases told
      rw [left', put_put_self, rows_put_self, List.filter_filter]
      simp

end Store

end TableServer
