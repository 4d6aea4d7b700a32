import TableServer.Proofs.Text.Runs
import TableServer.Text.Case
import Mathlib.Data.List.Pairwise

/-! Characters when case is ignored. They are the same when their small forms have one capital form.
The tables of partners say no less: capital and small forms lead back to each other, but for the
small letters that share a capital form, and these are partners. -/
namespace TableServer.Text

/-- Characters that are the same when case is ignored. -/
def SameLetter (a b : Char) : Prop :=
  upperOf (lowerChar a) = upperOf (lowerChar b)

/-! The tables of case. They are checked by whole shifts; only the few shifts that the other table
does not turn back are checked at each of their code points. -/

def smallCode (n : Nat) : Nat :=
  lowerShifts.applyTo n

def capitalCodes (n : Nat) : List Nat :=
  (upperExpansions.lookup n).getD [upperShifts.applyTo n]

def partnersOf (n : Nat) : List Nat :=
  (foldPartners.lookup n).getD []

def isPaired (n : Nat) : Bool :=
  (casePairedRuns.placeOf? n).isSome

def sameSmall (m n : Nat) : Bool :=
  m.beq n || (partnersOf m).contains n

theorem start_of_mem : ∀ s ∈ lowerShifts ++ upperShifts, 0 ≤ s.first + s.delta := by
  decide +kernel

theorem valid_of_mem : ∀ s ∈ lowerShifts ++ upperShifts,
    s.back.last < 0xD800 ∨ 0xDFFF < s.back.first ∧ s.back.last < 0x110000 := by
  decide +kernel

theorem lower_cases (n : Nat) : smallCode n = n ∨ ∃ s ∈ lowerShifts, s.Moves n ∧
    s.back.Moves (smallCode n) ∧ (smallCode n + s.back.delta).toNat = n :=
  Shifts.moved_cases (fun s hs => start_of_mem s (List.mem_append_left _ hs)) n

theorem upper_cases (n : Nat) : upperShifts.applyTo n = n ∨ ∃ s ∈ upperShifts, s.Moves n ∧
    s.back.Moves (upperShifts.applyTo n) ∧ (upperShifts.applyTo n + s.back.delta).toNat = n :=
  Shifts.moved_cases (fun s hs => start_of_mem s (List.mem_append_right _ hs)) n

theorem spared_of_mem : ∀ s ∈ lowerShifts, Shifts.spares s.back lowerShifts = true ∨
    s.back.all (fun n => (smallCode n).beq n) = true := by
  decide +kernel

theorem returns_of_mem : ∀ s ∈ upperShifts, Shifts.includes s.back lowerShifts = true ∨
    s.all (fun n => !(smallCode n).beq n || sameSmall n (smallCode (upperShifts.applyTo n))) =
      true := by
  decide +kernel

theorem isPaired_source : ∀ s ∈ lowerShifts, casePairedRuns.includes s = true ∨
    s.all isPaired = true := by
  decide +kernel

theorem isPaired_target : ∀ s ∈ lowerShifts, casePairedRuns.includes s.back = true := by
  decide +kernel

theorem partners_of_mem : ∀ e ∈ foldPartners, isPaired e.1 = true ∧
    ∀ m ∈ e.2, capitalCodes m = capitalCodes e.1 ∧ e.1 ∈ partnersOf m ∧
      ∀ k ∈ partnersOf m, k = e.1 ∨ k ∈ e.2 := by
  decide +kernel

theorem expansion_of_mem : ∀ e ∈ upperExpansions, e.2.length ≠ 1 ∧ ∀ n ∈ e.2, n < 0xD800 := by
  decide +kernel

theorem expansions_pairwise : upperExpansions.Pairwise fun e e' =>
    e.2 = e'.2 → smallCode e.1 = e.1 → smallCode e'.1 = e'.1 → sameSmall e.1 e'.1 = true := by
  decide +kernel

/-! Code points of letters. -/

variable {m n k : Nat}

theorem mem_of_lookup {β : Type} {table : List (Nat × β)} {v : β} (h : table.lookup n = some v) :
    (n, v) ∈ table := by
  obtain ⟨before, after, rfl, -⟩ := List.lookup_eq_some_iff.mp h
  simp

theorem sameSmall_iff : sameSmall m n = true ↔ m = n ∨ n ∈ partnersOf m := by
  simp [sameSmall]

theorem mem_foldPartners (h : n ∈ partnersOf m) : (m, partnersOf m) ∈ foldPartners := by
  cases told : foldPartners.lookup m with
  | none => simp [partnersOf, told] at h
  | some others =>
      rw [partnersOf, told, Option.getD_some]
      exact mem_of_lookup told

theorem sameSmall_symm (h : sameSmall m n = true) : sameSmall n m = true := by
  rw [sameSmall_iff] at h ⊢
  rcases h with rfl | partner
  · exact .inl rfl
  · exact .inr ((partners_of_mem _ (mem_foldPartners partner)).2 n partner).2.1

theorem sameSmall_trans (h : sameSmall m n = true) (h' : sameSmall n k = true) :
    sameSmall m k = true := by
  rw [sameSmall_iff] at *
  rcases h with rfl | partner
  · exact h'
  · rcases h' with rfl | next
    · exact .inr partner
    · have told := ((partners_of_mem _ (mem_foldPartners partner)).2 n partner).2.2 k next
      exact told.imp_left Eq.symm

theorem sameSmall_of_expansions {e e' : Nat × List Nat} (he : e ∈ upperExpansions)
    (he' : e' ∈ upperExpansions) (same : e.2 = e'.2) (small : smallCode e.1 = e.1)
    (small' : smallCode e'.1 = e'.1) : sameSmall e.1 e'.1 = true := by
  have alone : ∀ a ∈ upperExpansions, a.2 = a.2 → smallCode a.1 = a.1 → smallCode a.1 = a.1 →
      sameSmall a.1 a.1 = true := fun a _ _ _ _ => sameSmall_iff.mpr (.inl rfl)
  have turned := expansions_pairwise.imp fun told same small small' =>
    sameSmall_symm (told (Eq.symm same) small' small)
  exact expansions_pairwise.forall_of_forall_of_flip alone turned he he' same small small'

theorem isPaired_of_small_ne (h : smallCode n ≠ n) :
    isPaired n = true ∧ isPaired (smallCode n) = true := by
  rcases lower_cases n with stays | ⟨s, hs, moves, target, -⟩
  · exact absurd stays h
  · have source := (isPaired_source s hs).elim (fun run => Runs.placeOf?_of_includes run moves)
      fun all => Shift.of_all all moves
    exact ⟨source, Runs.placeOf?_of_includes (isPaired_target s hs) target⟩

theorem smallCode_smallCode (n : Nat) : smallCode (smallCode n) = smallCode n := by
  rcases lower_cases n with stays | ⟨s, hs, -, target, -⟩
  · rw [stays, stays]
  · rcases spared_of_mem s hs with spared | all
    · exact Shifts.applyTo_of_spares spared target
    · have told := Shift.of_all all target
      exact Nat.eq_of_beq_eq_true told

theorem sameSmall_returns (h : smallCode n = n) :
    sameSmall n (smallCode (upperShifts.applyTo n)) = true := by
  rcases upper_cases n with stays | ⟨s, hs, moves, target, back⟩
  · rw [stays, h]
    exact sameSmall_iff.mpr (.inl rfl)
  · rcases returns_of_mem s hs with included | all
    · rw [smallCode, Shifts.applyTo_of_includes included target, back]
      exact sameSmall_iff.mpr (.inl rfl)
    · have told := Shift.of_all all moves
      simpa [h] using told

theorem capitalCodes_eq_iff (hm : smallCode m = m) (hn : smallCode n = n) :
    capitalCodes m = capitalCodes n ↔ sameSmall m n = true := by
  constructor
  · intro same
    unfold capitalCodes at same
    cases em : upperExpansions.lookup m with
    | none =>
        cases en : upperExpansions.lookup n with
        | none =>
            simp only [em, en, Option.getD_none, List.cons.injEq, and_true] at same
            have from_m := sameSmall_returns hm
            rw [same] at from_m
            exact sameSmall_trans from_m (sameSmall_symm (sameSmall_returns hn))
        | some codes =>
            simp only [em, en, Option.getD_none, Option.getD_some] at same
            exact absurd (congrArg List.length same).symm
              (expansion_of_mem _ (mem_of_lookup en)).1
    | some codes =>
        cases en : upperExpansions.lookup n with
        | none =>
            simp only [em, en, Option.getD_none, Option.getD_some] at same
            exact absurd (congrArg List.length same) (expansion_of_mem _ (mem_of_lookup em)).1
        | some codes' =>
            simp only [em, en, Option.getD_some] at same
            exact sameSmall_of_expansions (mem_of_lookup em) (mem_of_lookup en) same hm hn
  · intro same
    rcases sameSmall_iff.mp same with rfl | partner
    · rfl
    · exact ((partners_of_mem _ (mem_foldPartners partner)).2 n partner).1.symm

/-! Characters. -/

theorem isValidChar_of_target {s : Shift} (hs : s ∈ lowerShifts ++ upperShifts)
    (target : s.back.Moves n) : n.isValidChar := by
  have valid := valid_of_mem s hs
  obtain ⟨low, high, -⟩ := target
  simp only [Nat.isValidChar]
  omega

theorem toNat_ofNat (h : n.isValidChar) : (Char.ofNat n).toNat = n := by
  rw [Char.ofNat, dif_pos h]
  rfl

theorem toNat_lowerChar (c : Char) : (lowerChar c).toNat = smallCode c.toNat := by
  refine toNat_ofNat ?_
  change (smallCode c.toNat).isValidChar
  rcases lower_cases c.toNat with stays | ⟨s, hs, -, target, -⟩
  · rw [stays]
    exact c.valid
  · exact isValidChar_of_target (List.mem_append_left _ hs) target

theorem toNat_upperOf (c : Char) : (upperOf c).map Char.toNat = capitalCodes c.toNat := by
  unfold upperOf capitalCodes
  cases told : upperExpansions.lookup c.toNat with
  | none =>
      change [(Char.ofNat (upperShifts.applyTo c.toNat)).toNat] = [upperShifts.applyTo c.toNat]
      rcases upper_cases c.toNat with stays | ⟨s, hs, -, target, -⟩
      · rw [stays, Char.ofNat_toNat]
      · rw [toNat_ofNat (isValidChar_of_target (List.mem_append_right _ hs) target)]
  | some codes =>
      have short := (expansion_of_mem _ (mem_of_lookup told)).2
      rw [Option.getD_some, List.map_map]
      refine (List.map_congr_left fun n hn => ?_).trans (List.map_id codes)
      exact toNat_ofNat (.inl (short n hn))

theorem sameLetter_iff (a b : Char) :
    SameLetter a b ↔ sameSmall (smallCode a.toNat) (smallCode b.toNat) = true := by
  rw [← capitalCodes_eq_iff (smallCode_smallCode _) (smallCode_smallCode _), ← toNat_lowerChar,
    ← toNat_lowerChar, ← toNat_upperOf, ← toNat_upperOf, SameLetter]
  have injective : Function.Injective Char.toNat := fun _ _ => Char.toNat_inj.mp
  exact (List.map_injective_iff.mpr injective).eq_iff.symm

theorem sameFolded_iff (a b : Char) : sameFolded a b = true ↔ SameLetter a b := by
  rw [sameLetter_iff, sameSmall_iff, sameFolded]
  split
  · simp only [Bool.or_eq_true, beq_iff_eq, List.contains_iff_mem, ← Char.toNat_inj,
      toNat_lowerChar]
    rfl
  · rename_i unpaired
    have stays : smallCode a.toNat = a.toNat := by
      by_contra moved
      exact unpaired (isPaired_of_small_ne moved).1
    have alone : smallCode b.toNat ∉ partnersOf a.toNat :=
      fun partner => unpaired (partners_of_mem _ (mem_foldPartners partner)).1
    rw [stays, beq_iff_eq, ← Char.toNat_inj]
    constructor
    · intro same
      rw [← same, stays]
      exact .inl rfl
    · intro same
      have small := same.resolve_right alone
      by_contra apart
      have moved : smallCode b.toNat ≠ b.toNat := fun h => apart (small.trans h)
      have paired := (isPaired_of_small_ne moved).2
      rw [← small] at paired
      exact unpaired paired

/-! ASCII letters. -/

def SameAscii (a b : Char) : Prop :=
  a.toLower = b.toLower

theorem toLower_cases (c : Char) : c.toLower = c ∨
    65 ≤ c.toNat ∧ c.toNat ≤ 90 ∧ c.toLower.toNat = c.toNat + 32 := by
  by_cases capital : c.val ≥ 'A'.val ∧ c.val ≤ 'Z'.val
  · have low : 65 ≤ c.toNat := UInt32.le_iff_toNat_le.mp capital.1
    have high : c.toNat ≤ 90 := UInt32.le_iff_toNat_le.mp capital.2
    have moved : c.toLower = _ := dif_pos capital
    refine .inr ⟨low, high, ?_⟩
    rw [moved]
    change (c.val + 32).toNat = c.toNat + 32
    rw [UInt32.toNat_add]
    change (c.toNat + 32) % 2 ^ 32 = c.toNat + 32
    omega
  · exact .inl (dif_neg capital)

theorem smallCode_ascii {n : Nat} (low : 65 ≤ n) (high : n ≤ 90) :
    smallCode n = n + 32 ∧ smallCode (n + 32) = n + 32 := by
  have behind : ¬n + 32 < 65 := by omega
  have beyond : ¬n + 32 ≤ 90 := by omega
  have before : n + 32 < 192 := by omega
  unfold smallCode lowerShifts
  constructor
  · rw [Shifts.applyTo, if_neg (not_lt.mpr low), if_pos high, if_pos (Nat.mod_one _)]
    rfl
  · rw [Shifts.applyTo, if_neg behind, if_neg beyond, Shifts.applyTo, if_pos before]

theorem lowerChar_toLower (c : Char) : lowerChar c.toLower = lowerChar c := by
  rcases toLower_cases c with stays | ⟨low, high, moved⟩
  · rw [stays]
  · obtain ⟨small, settled⟩ := smallCode_ascii low high
    rw [← Char.toNat_inj, toNat_lowerChar, toNat_lowerChar, moved, settled, small]

namespace SameAscii

variable {a b : Char}

theorem symm (h : SameAscii a b) : SameAscii b a :=
  Eq.symm h

theorem lowerChar_eq (h : SameAscii a b) : lowerChar a = lowerChar b := by
  rw [← lowerChar_toLower a, h, lowerChar_toLower]

theorem eq_mark {mark : Char} (before : mark.toNat < 97) (stays : mark.toLower = mark)
    (h : SameAscii mark b) : b = mark := by
  have lowered : b.toLower = mark := h.symm.trans stays
  rcases toLower_cases b with same | ⟨low, -, moved⟩
  · exact same.symm.trans lowered
  · rw [lowered] at moved
    omega

theorem eq_mark_iff {mark : Char} (before : mark.toNat < 97) (stays : mark.toLower = mark)
    (h : SameAscii a b) : a = mark ↔ b = mark := by
  constructor
  · rintro rfl
    exact h.eq_mark before stays
  · rintro rfl
    exact h.symm.eq_mark before stays

end SameAscii

end TableServer.Text
