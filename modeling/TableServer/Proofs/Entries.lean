import Mathlib.Data.List.Induction
import Mathlib.Data.List.Nodup
import Mathlib.Tactic.Tauto
import TableServer.Entries

/-! Entries under writes. The last write of a name counts, writes of different names may change
places where one of the names is there, and merging a patch a second time changes nothing. -/
namespace TableServer.Entries

variable {κ α : Type} [DecidableEq κ] {name other : κ} {entries patch : List (κ × α)} {value : α}

theorem put_put_self (name : κ) (first second : α) (entries : List (κ × α)) :
    put name second (put name first entries) = put name second entries := by
  induction entries with
  | nil => simp [put]
  | cons e rest ih =>
      obtain ⟨k, v⟩ := e
      by_cases h : k = name
      · simp [put, h]
      · simp [put, h, ih]

theorem put_of_find? (h : find? name entries = some value) : put name value entries = entries := by
  induction entries with
  | nil => cases h
  | cons e rest ih =>
      obtain ⟨k, v⟩ := e
      by_cases hk : k = name
      · simp only [find?, hk, if_true, Option.some.injEq] at h
        simp [put, hk, h]
      · simp only [find?, hk, if_false] at h
        simp [put, hk, ih h]

theorem find?_eq_none_iff : find? name entries = none ↔ name ∉ names entries := by
  induction entries with
  | nil => simp [find?, names]
  | cons e rest ih =>
      obtain ⟨k, v⟩ := e
      by_cases h : k = name
      · simp [find?, names, h]
      · simp only [find?, h, if_false, ih, names, List.map_cons, List.mem_cons, not_or]
        exact ⟨fun absent => ⟨fun he => h he.symm, absent⟩, And.right⟩

theorem put_of_not_mem (absent : name ∉ names entries) :
    put name value entries = entries ++ [(name, value)] := by
  induction entries with
  | nil => rfl
  | cons e rest ih =>
      obtain ⟨k, v⟩ := e
      simp only [names, List.map_cons, List.mem_cons, not_or] at absent
      simp [put, Ne.symm absent.1, ih absent.2]

theorem find?_append (first second : List (κ × α)) :
    find? name (first ++ second) = (find? name first).or (find? name second) := by
  induction first with
  | nil => rfl
  | cons e rest ih =>
      obtain ⟨k, v⟩ := e
      by_cases hk : k = name
      · simp [find?, hk]
      · simp [find?, hk, ih]

theorem erase_sublist (name : κ) (entries : List (κ × α)) :
    (erase name entries).Sublist entries := by
  induction entries with
  | nil => exact .slnil
  | cons e rest ih =>
      unfold erase
      split
      · exact List.sublist_cons_self _ rest
      · exact ih.cons_cons _

theorem erase_eq_filter (unique : (names entries).Nodup) :
    erase name entries = entries.filter fun e => !decide (name = e.1) := by
  induction entries with
  | nil => rfl
  | cons e rest ih =>
      obtain ⟨k, v⟩ := e
      obtain ⟨absent, unique⟩ := List.nodup_cons.mp unique
      by_cases hk : k = name
      · subst hk
        have kept : rest.filter (fun e => !decide (k = e.1)) = rest := by
          refine List.filter_eq_self.mpr fun e he => ?_
          have different : k ≠ e.1 := fun same => absent (List.mem_map.mpr ⟨e, he, same.symm⟩)
          simp [different]
        rw [erase, if_pos rfl, List.filter_cons_of_neg (by simp), kept]
      · rw [erase, if_neg hk, ih unique, List.filter_cons_of_pos (by simp [Ne.symm hk])]

theorem mem_of_find? (h : find? name entries = some value) : (name, value) ∈ entries := by
  induction entries with
  | nil => cases h
  | cons e rest ih =>
      obtain ⟨k, v⟩ := e
      by_cases hk : k = name
      · simp only [find?, hk, if_true, Option.some.injEq] at h
        simp [hk, h]
      · simp only [find?, hk, if_false] at h
        exact List.mem_cons_of_mem _ (ih h)

theorem find?_of_mem (unique : (names entries).Nodup) (h : (name, value) ∈ entries) :
    find? name entries = some value := by
  induction entries with
  | nil => cases h
  | cons e rest ih =>
      obtain ⟨k, v⟩ := e
      obtain ⟨absent, unique⟩ := List.nodup_cons.mp unique
      rcases List.mem_cons.mp h with he | hm
      · cases he
        simp [find?]
      · have hk : k ≠ name := by
          rintro rfl
          exact absent (List.mem_map.mpr ⟨_, hm, rfl⟩)
        simp [find?, hk, ih unique hm]

theorem mem_names_put :
    other ∈ names (put name value entries) ↔ other = name ∨ other ∈ names entries := by
  rw [names_put]
  split
  · rename_i there
    exact ⟨.inr, fun h => h.elim (fun he => he ▸ there) id⟩
  · rw [List.mem_append, List.mem_singleton, or_comm]

theorem mem_put {e : κ × α} (h : e ∈ put name value entries) :
    e = (name, value) ∨ e ∈ entries := by
  induction entries with
  | nil => exact .inl (List.mem_singleton.mp h)
  | cons head rest ih =>
      obtain ⟨k, v⟩ := head
      by_cases hk : k = name
      · rw [put, if_pos hk, hk] at h
        exact (List.mem_cons.mp h).imp_right (List.mem_cons_of_mem _)
      · rw [put, if_neg hk] at h
        rcases List.mem_cons.mp h with rfl | ht
        · exact .inr (List.mem_cons_self)
        · exact (ih ht).imp_right (List.mem_cons_of_mem _)

theorem put_comm (different : name ≠ other) (there : name ∈ names entries) (first second : α) :
    put name first (put other second entries) = put other second (put name first entries) := by
  induction entries with
  | nil => cases there
  | cons e rest ih =>
      obtain ⟨k, v⟩ := e
      by_cases hk : k = name
      · simp [put, hk, different]
      · have tail : name ∈ names rest := (List.mem_cons.mp there).resolve_left (Ne.symm hk)
        by_cases ho : k = other
        · simp [put, ho, Ne.symm different]
        · simp [put, hk, ho, ih tail]

theorem nodup_names_put (unique : (names entries).Nodup) (name : κ) (value : α) :
    (names (put name value entries)).Nodup := by
  rw [names_put]
  split
  · exact unique
  · rename_i absent
    exact List.nodup_append.mpr ⟨unique, List.nodup_singleton name, by
      rintro _ ha _ hb rfl
      exact absent (List.mem_singleton.mp hb ▸ ha)⟩

section Merge

theorem merge_cons (entries : List (κ × α)) (e : κ × α) (rest : List (κ × α)) :
    merge entries (e :: rest) = merge (put e.1 e.2 entries) rest :=
  rfl

theorem merge_append (entries first second : List (κ × α)) :
    merge entries (first ++ second) = merge (merge entries first) second :=
  List.foldl_append

theorem mem_names_merge :
    name ∈ names (merge entries patch) ↔ name ∈ names entries ∨ name ∈ names patch := by
  induction patch generalizing entries with
  | nil => simp [merge, names]
  | cons e rest ih =>
      rw [merge_cons, ih, mem_names_put]
      simp only [names, List.map_cons, List.mem_cons]
      tauto

theorem mem_merge {e : κ × α} (h : e ∈ merge entries patch) : e ∈ entries ∨ e ∈ patch := by
  induction patch generalizing entries with
  | nil => exact .inl h
  | cons head rest ih =>
      rcases ih h with hp | hr
      · rcases mem_put hp with rfl | he
        · exact .inr List.mem_cons_self
        · exact .inl he
      · exact .inr (List.mem_cons_of_mem _ hr)

theorem nodup_names_merge (unique : (names entries).Nodup) (patch : List (κ × α)) :
    (names (merge entries patch)).Nodup := by
  induction patch generalizing entries with
  | nil => exact unique
  | cons e rest ih => exact ih (nodup_names_put unique e.1 e.2)

theorem nodup_names_ofPairs (pairs : List (κ × α)) : (names (ofPairs pairs)).Nodup := by
  have none : (names ([] : List (κ × α))).Nodup := List.nodup_nil
  exact nodup_names_merge none pairs

theorem find?_merge (unique : (names patch).Nodup) :
    find? name (merge entries patch) = (find? name patch).or (find? name entries) := by
  induction patch generalizing entries with
  | nil => simp [merge, find?]
  | cons e rest ih =>
      obtain ⟨k, v⟩ := e
      obtain ⟨absent, unique⟩ := List.nodup_cons.mp unique
      rw [merge_cons, ih unique]
      by_cases hk : k = name
      · subst hk
        rw [find?_eq_none_iff.mpr absent, Option.none_or, find?_put_self]
        simp [find?]
      · rw [find?_put_of_ne (Ne.symm hk)]
        simp [find?, hk]

theorem find?_merge_of_absent (absent : find? name patch = none) :
    find? name (merge entries patch) = find? name entries := by
  induction patch generalizing entries with
  | nil => rfl
  | cons e rest ih =>
      obtain ⟨k, v⟩ := e
      by_cases hk : k = name
      · simp [find?, hk] at absent
      · rw [find?, if_neg hk] at absent
        rw [merge_cons, ih absent, find?_put_of_ne (Ne.symm hk)]

theorem put_merge_put (covered : ∀ k ∈ names patch, k ∈ names entries) (name : κ)
    (first second : α) :
    put name second (merge (put name first entries) patch) =
      put name second (merge entries patch) := by
  induction patch generalizing entries with
  | nil => exact put_put_self name first second entries
  | cons e rest ih =>
      obtain ⟨k, v⟩ := e
      have there : k ∈ names entries := covered k (by simp [names])
      have covered' (w : α) : ∀ j ∈ names rest, j ∈ names (put k w entries) :=
        fun j hj => mem_names_put.mpr (.inr (covered j (by simp [names] at hj ⊢; exact .inr hj)))
      rw [merge_cons, merge_cons]
      by_cases hk : k = name
      · subst hk
        rw [put_put_self]
      · rw [put_comm hk there, ih (covered' v)]

theorem merge_merge_self (entries patch : List (κ × α)) :
    merge (merge entries patch) patch = merge entries patch := by
  induction patch using List.reverseRecOn with
  | nil => rfl
  | append_singleton front e ih =>
      obtain ⟨k, v⟩ := e
      have covered : ∀ j ∈ names front, j ∈ names (merge entries front) :=
        fun j hj => mem_names_merge.mpr (.inr hj)
      calc
        merge (merge entries (front ++ [(k, v)])) (front ++ [(k, v)]) =
            put k v (merge (put k v (merge entries front)) front) := by
          simp only [merge_append]
          rfl
        _ = put k v (merge (merge entries front) front) := put_merge_put covered k v v
        _ = merge entries (front ++ [(k, v)]) := by
          rw [ih, merge_append]
          rfl

theorem merge_put_of_mem (there : name ∈ names entries) (again : name ∈ names patch) (value : α) :
    merge (put name value entries) patch = merge entries patch := by
  induction patch generalizing entries with
  | nil => cases again
  | cons e rest ih =>
      obtain ⟨k, v⟩ := e
      rw [merge_cons, merge_cons]
      by_cases hk : name = k
      · subst hk
        rw [put_put_self]
      · have later : name ∈ names rest := (List.mem_cons.mp again).resolve_left hk
        rw [← put_comm hk there, ih (mem_names_put.mpr (.inr there)) later]

/-- Two patches of the same names that differ only in values which a later write replaces. -/
inductive AgreeInEnd : List (κ × α) → List (κ × α) → Prop where
  | nil : AgreeInEnd [] []
  | cons {name : κ} {first second : α} {patch other : List (κ × α)} :
      first = second ∨ name ∈ names patch → AgreeInEnd patch other →
        AgreeInEnd ((name, first) :: patch) ((name, second) :: other)

theorem AgreeInEnd.merge_eq {other : List (κ × α)} (h : AgreeInEnd patch other)
    (entries : List (κ × α)) : merge entries patch = merge entries other := by
  induction h generalizing entries with
  | nil => rfl
  | @cons name first second patch other same _ ih =>
      rw [merge_cons, merge_cons, ← ih]
      rcases same with rfl | again
      · rfl
      · have there : name ∈ names (put name second entries) := mem_names_put.mpr (.inl rfl)
        rw [← merge_put_of_mem there again first, put_put_self]

theorem find?_merge_reverse (entries patch : List (κ × α)) :
    find? name (merge entries patch) = (find? name patch.reverse).or (find? name entries) := by
  induction patch using List.reverseRecOn with
  | nil => rfl
  | append_singleton front e ih =>
      obtain ⟨k, v⟩ := e
      rw [merge_append, List.reverse_append]
      change find? name (put k v (merge entries front)) =
        (find? name ((k, v) :: front.reverse)).or _
      by_cases hk : k = name
      · rw [hk, find?_put_self, find?, if_pos rfl, Option.some_or]
      · rw [find?_put_of_ne (Ne.symm hk), find?, if_neg hk, ih]

theorem merge_nil (unique : (names entries).Nodup) : merge [] entries = entries := by
  suffices h : ∀ before : List (κ × α), (names (before ++ entries)).Nodup →
      merge before entries = before ++ entries from h [] unique
  clear unique
  induction entries with
  | nil => simp [merge]
  | cons e rest ih =>
      intro before unique
      obtain ⟨k, v⟩ := e
      have absent : k ∉ names before := by
        simp only [names, List.map_append, List.nodup_append] at unique
        intro there
        exact unique.2.2 k there k (by simp) rfl
      rw [merge_cons, put_of_not_mem absent, ih (before ++ [(k, v)]) (by simpa using unique)]
      simp

end Merge

end TableServer.Entries
