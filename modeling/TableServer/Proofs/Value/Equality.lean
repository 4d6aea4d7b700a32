import Mathlib.Data.List.Perm.Subperm
import TableServer.Proofs.Entries
import TableServer.Value.Equality

/-! Loose equality of values. Among values whose objects name every member once it is transitive and
symmetric, and reflexive where nothing is held that is not a number. -/
namespace TableServer

theorem forall₂_of_forall₂_of_mem {α β γ : Type} {R : α → β → Prop} {S : β → γ → Prop}
    {T : α → γ → Prop} {as : List α} {bs : List β} {cs : List γ}
    (through : ∀ b ∈ bs, ∀ a c, R a b → S b c → T a c) (first : List.Forall₂ R as bs)
    (second : List.Forall₂ S bs cs) : List.Forall₂ T as cs := by
  induction first generalizing cs with
  | nil =>
      cases second
      exact .nil
  | cons head _ ih =>
      cases second with
      | cons head' second =>
          exact .cons (through _ (by simp) _ _ head head')
            (ih (fun b hb => through b (by simp [hb])) second)

theorem forall₂_flip_of_mem {α β : Type} {R : α → β → Prop} {S : β → α → Prop} {as : List α}
    {bs : List β} (turn : ∀ a ∈ as, ∀ b ∈ bs, R a b → S b a) (h : List.Forall₂ R as bs) :
    List.Forall₂ S bs as := by
  induction h with
  | nil => exact .nil
  | cons head _ ih =>
      exact .cons (turn _ (by simp) _ (by simp) head)
        (ih fun a ha b hb => turn a (by simp [ha]) b (by simp [hb]))

section Partners

variable {κ α β : Type} [DecidableEq κ] {members : List (κ × α)} {others : List (κ × β)}
  {R : α → β → Prop}

theorem Entries.perm_names_of_partners (unique : (names members).Nodup)
    (length : members.length = others.length)
    (partners : ∀ e ∈ members, ∃ w, find? e.1 others = some w ∧ R e.2 w) :
    (names members).Perm (names others) := by
  have covered : names members ⊆ names others := by
    intro k hk
    obtain ⟨e, he, rfl⟩ := List.mem_map.mp hk
    obtain ⟨w, hw, -⟩ := partners e he
    exact List.mem_map.mpr ⟨_, mem_of_find? hw, rfl⟩
  exact (unique.subperm covered).perm_of_length_le (by simp [names, length])

theorem Entries.partner_of_partners (unique : (names members).Nodup)
    (unique' : (names others).Nodup) (length : members.length = others.length)
    (partners : ∀ e ∈ members, ∃ w, find? e.1 others = some w ∧ R e.2 w) :
    ∀ e ∈ others, ∃ v, (e.1, v) ∈ members ∧ R v e.2 := by
  have all := perm_names_of_partners unique length partners
  intro e he
  obtain ⟨⟨k, v⟩, member, rfl⟩ := List.mem_map.mp (all.mem_iff.mpr (List.mem_map.mpr ⟨e, he, rfl⟩))
  obtain ⟨w, hw, alike⟩ := partners _ member
  cases hw.symm.trans (find?_of_mem unique' he)
  exact ⟨v, member, alike⟩

end Partners

theorem Magnitude.same_iff {a b : Magnitude} : a.same b = true ↔ a = b ∧ a ≠ undefined := by
  cases a <;> cases b <;> simp [same]

namespace Value

/-- Values that hold nothing that is not a number, at any depth. -/
inductive NanFree : Value → Prop where
  | null : NanFree null
  | bool (b : Bool) : NanFree (bool b)
  | number {n : Number} : n.isNan = false → NanFree (number n)
  | string (s : Codes) : NanFree (string s)
  | array {items : List Value} : (∀ v ∈ items, NanFree v) → NanFree (array items)
  | object {members : Members} : (∀ e ∈ members, NanFree e.2) → NanFree (object members)

/-- Values whose objects name every member once, at any depth. -/
inductive Tidy : Value → Prop where
  | null : Tidy null
  | bool (b : Bool) : Tidy (bool b)
  | number (n : Number) : Tidy (number n)
  | string (s : Codes) : Tidy (string s)
  | array {items : List Value} : (∀ v ∈ items, Tidy v) → Tidy (array items)
  | object {members : Members} : (Entries.names members).Nodup →
      (∀ e ∈ members, Tidy e.2) → Tidy (object members)

variable {a b c : Value}

theorem magnitude_ne_undefined {n : Number} (h : n.isNan = false) : n.magnitude ≠ .undefined := by
  cases n with
  | integer n => simp [Number.magnitude]
  | double d =>
      cases d with
      | nan => cases h
      | infinite negative => cases negative <;> simp [Number.magnitude, Double.magnitude]
      | finite negative m e => simp [Number.magnitude, Double.magnitude]

theorem magnitude_of_isNan {n : Number} (h : n.isNan = true) : n.magnitude = .undefined := by
  cases n with
  | integer n => cases h
  | double d =>
      cases d with
      | nan => rfl
      | _ => cases h

theorem sameNumber_iff : sameNumber a b = true ↔
    ∃ m n, a.asNumber? = some m ∧ b.asNumber? = some n ∧ m.magnitude = n.magnitude ∧
      m.magnitude ≠ .undefined := by
  unfold sameNumber
  cases ha : a.asNumber? with
  | none => simp
  | some m =>
      cases hb : b.asNumber? with
      | none => simp
      | some n => simp [Number.same, Magnitude.same_iff]

/-- Equality of what two containers hold at one place. -/
def Alike (a b : Value) : Prop :=
  bothNan a b = true ∨ a.same b = true

theorem sameItems_iff {as bs : List Value} :
    sameItems as bs = true ↔ List.Forall₂ Alike as bs := by
  induction as generalizing bs with
  | nil => cases bs <;> simp [sameItems]
  | cons a as ih => cases bs <;> simp [sameItems, ih, Alike]

theorem sameMembers_iff {ms others : Members} : sameMembers ms others = true ↔
    ∀ e ∈ ms, ∃ b, Entries.find? e.1 others = some b ∧ Alike e.2 b := by
  induction ms with
  | nil => simp [sameMembers]
  | cons e rest ih =>
      obtain ⟨k, a⟩ := e
      cases hf : Entries.find? k others <;> simp [sameMembers, ih, hf, Alike]

theorem same_of_numeric_left {n : Number} (h : a.asNumber? = some n) (b : Value) :
    a.same b = sameNumber a b := by
  cases a <;> first | rfl | cases h

theorem same_of_numeric_right (a : Value) {n : Number} (h : b.asNumber? = some n) :
    a.same b = sameNumber a b := by
  cases b with
  | bool _ => cases a <;> rfl
  | number _ => cases a <;> rfl
  | _ => cases h

theorem eq_null_of_same (h : a.same null = true) : a = null := by
  cases a with
  | null => rfl
  | _ => simp [same, sameNumber, asNumber?] at h

theorem eq_string_of_same {s : Codes} (h : a.same (string s) = true) : a = string s := by
  cases a with
  | string t =>
      simp only [same, decide_eq_true_eq] at h
      rw [h]
  | _ => simp [same, sameNumber, asNumber?, isNull] at h

theorem eq_array_of_same {items : List Value} (h : a.same (array items) = true) :
    ∃ others, a = array others ∧ sameItems others items = true := by
  cases a with
  | array others => exact ⟨others, rfl, by rwa [same] at h⟩
  | _ => simp [same, sameNumber, asNumber?, isNull] at h

theorem eq_object_of_same {members : Members} (h : a.same (object members) = true) :
    ∃ others, a = object others ∧ others.length = members.length ∧
      sameMembers others members = true := by
  cases a with
  | object others => exact ⟨others, rfl, by simpa [same] using h⟩
  | _ => simp [same, sameNumber, asNumber?, isNull] at h

theorem sameNumber_trans (hab : sameNumber a b = true) (hbc : sameNumber b c = true) :
    sameNumber a c = true := by
  obtain ⟨l, m, hl, hm, alike, defined⟩ := sameNumber_iff.mp hab
  obtain ⟨m', n, hm', hn, alike', -⟩ := sameNumber_iff.mp hbc
  cases hm.symm.trans hm'
  exact sameNumber_iff.mpr ⟨l, n, hl, hn, alike.trans alike', defined⟩

theorem sameNumber_symm (h : sameNumber a b = true) : sameNumber b a = true := by
  obtain ⟨m, n, hm, hn, alike, defined⟩ := sameNumber_iff.mp h
  exact sameNumber_iff.mpr ⟨n, m, hn, hm, alike.symm, alike ▸ defined⟩

theorem numbers_of_bothNan (h : bothNan a b = true) : ∃ m n, a = number m ∧ b = number n ∧
    m.magnitude = .undefined ∧ n.magnitude = .undefined := by
  unfold bothNan at h
  split at h
  · rename_i m n
    obtain ⟨nan, nan'⟩ := Bool.and_eq_true_iff.mp h
    exact ⟨m, n, rfl, rfl, magnitude_of_isNan nan, magnitude_of_isNan nan'⟩
  · cases h

theorem not_same_of_bothNan (h : bothNan a b = true) (c : Value) :
    b.same c = false ∧ c.same a = false := by
  obtain ⟨m, n, rfl, rfl, nan, nan'⟩ := numbers_of_bothNan h
  constructor
  · rw [same_of_numeric_left (n := n) rfl]
    refine Bool.eq_false_iff.mpr fun alike => ?_
    obtain ⟨_, _, told, -, -, defined⟩ := sameNumber_iff.mp alike
    cases told
    exact defined nan'
  · rw [same_of_numeric_right c (n := m) rfl]
    refine Bool.eq_false_iff.mpr fun alike => ?_
    obtain ⟨_, _, -, told, same, defined⟩ := sameNumber_iff.mp alike
    cases told
    exact defined (same.trans nan)

theorem bothNan_symm (h : bothNan a b = true) : bothNan b a = true := by
  unfold bothNan at h ⊢
  split at h
  · simpa [and_comm] using h
  · cases h

theorem bothNan_trans (hab : bothNan a b = true) (hbc : bothNan b c = true) :
    bothNan a c = true := by
  cases a <;> cases b <;> cases c <;> simp_all [bothNan]

theorem Alike.symm (turn : a.same b = true → b.same a = true) (h : Alike a b) : Alike b a :=
  h.imp bothNan_symm turn

theorem Alike.trans (through : a.same b = true → b.same c = true → a.same c = true)
    (hab : Alike a b) (hbc : Alike b c) : Alike a c := by
  rcases hab with nan | alike
  · rcases hbc with nan' | alike'
    · exact .inl (bothNan_trans nan nan')
    · rw [(not_same_of_bothNan nan c).1] at alike'
      cases alike'
  · rcases hbc with nan | alike'
    · rw [(not_same_of_bothNan nan a).2] at alike
      cases alike
    · exact .inr (through alike alike')

theorem same_refl (free : NanFree a) (tidy : Tidy a) : a.same a = true := by
  induction free with
  | null => rfl
  | bool b => cases b <;> decide
  | @number n nan =>
      rw [same_of_numeric_left (n := n) rfl]
      exact sameNumber_iff.mpr ⟨n, n, rfl, rfl, rfl, magnitude_ne_undefined nan⟩
  | string s => simp [same]
  | @array items _ ih =>
      cases tidy with
      | array tidy =>
          rw [same, sameItems_iff]
          exact List.forall₂_same.mpr fun v hv => .inr (ih v hv (tidy v hv))
  | @object members _ ih =>
      cases tidy with
      | object unique tidy =>
          have partners : sameMembers members members = true :=
            sameMembers_iff.mpr fun e he =>
              ⟨e.2, Entries.find?_of_mem unique he, .inr (ih e he (tidy e he))⟩
          simp [same, partners]

theorem same_trans_of_numeric {n : Number} (numeric : b.asNumber? = some n)
    (hab : a.same b = true) (hbc : b.same c = true) : a.same c = true := by
  rw [same_of_numeric_right a numeric] at hab
  rw [same_of_numeric_left numeric] at hbc
  obtain ⟨_, _, numeric', -⟩ := sameNumber_iff.mp hab
  rw [same_of_numeric_left numeric']
  exact sameNumber_trans hab hbc

theorem same_symm_of_numeric {n : Number} (numeric : a.asNumber? = some n)
    (h : a.same b = true) : b.same a = true := by
  rw [same_of_numeric_left numeric] at h
  rw [same_of_numeric_right b numeric]
  exact sameNumber_symm h

theorem same_trans (tidy : Tidy b) (hab : a.same b = true) (hbc : b.same c = true) :
    a.same c = true := by
  induction tidy generalizing a c with
  | null => rwa [eq_null_of_same hab]
  | bool b => exact same_trans_of_numeric rfl hab hbc
  | number n => exact same_trans_of_numeric rfl hab hbc
  | string s => rwa [eq_string_of_same hab]
  | @array items _ ih =>
      obtain ⟨others, rfl, first⟩ := eq_array_of_same hab
      cases c with
      | array values =>
          rw [same] at hbc ⊢
          rw [sameItems_iff] at first hbc ⊢
          exact forall₂_of_forall₂_of_mem (fun v hv x y hx hy => Alike.trans (ih v hv) hx hy)
            first hbc
      | _ => cases hbc
  | @object members _ _ ih =>
      obtain ⟨others, rfl, length, hab⟩ := eq_object_of_same hab
      cases c with
      | object values =>
          simp only [same, Bool.and_eq_true, decide_eq_true_eq] at hbc ⊢
          obtain ⟨length', hbc⟩ := hbc
          rw [sameMembers_iff] at hab hbc
          refine ⟨length.trans length', sameMembers_iff.mpr fun e he => ?_⟩
          obtain ⟨v, hv, alike⟩ := hab e he
          have member := Entries.mem_of_find? hv
          obtain ⟨w, hw, alike'⟩ := hbc _ member
          exact ⟨w, hw, Alike.trans (ih _ member) alike alike'⟩
      | _ => cases hbc

theorem same_symm (ha : Tidy a) (hb : Tidy b) (h : a.same b = true) : b.same a = true := by
  induction ha generalizing b with
  | null =>
      cases b with
      | null => rfl
      | _ => cases h
  | bool x => exact same_symm_of_numeric rfl h
  | number n => exact same_symm_of_numeric rfl h
  | string s =>
      cases b with
      | string t => simpa [same, eq_comm] using h
      | _ => cases h
  | @array items _ ih =>
      cases b with
      | array others =>
          rw [same] at h ⊢
          rw [sameItems_iff] at h ⊢
          cases hb with
          | array tidy =>
          exact forall₂_flip_of_mem (fun v hv w hw => Alike.symm (ih v hv (tidy w hw))) h
      | _ => cases h
  | @object members unique _ ih =>
      cases b with
      | object others =>
          cases hb with
          | object unique' tidy =>
          simp only [same, Bool.and_eq_true, decide_eq_true_eq] at h ⊢
          obtain ⟨length, partners⟩ := h
          rw [sameMembers_iff] at partners
          refine ⟨length.symm, sameMembers_iff.mpr fun e he => ?_⟩
          obtain ⟨v, member, alike⟩ := Entries.partner_of_partners (R := Alike) unique unique'
            length partners e he
          exact ⟨v, Entries.find?_of_mem unique member, Alike.symm (ih _ member (tidy e he)) alike⟩
      | _ => cases h

end Value

end TableServer
