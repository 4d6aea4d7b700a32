import TableServer.Proofs.Text.Case
import TableServer.Text.Word

/-! Words of texts, which are their longest runs of word characters, and small letters. A capital
sigma alone minds what stands around it, and no further than to the next character that is neither
skipped nor a letter with case; so texts on both sides of such a character are lowered apart. A text
that holds a word holds one in small letters. -/
namespace TableServer.Text

/-- A word with what stands before and behind it: a run of word characters that ends on both
sides. -/
structure WordAt (before word after : List Char) : Prop where
  filled : word ≠ []
  worded : ∀ c ∈ word, isWord c = true
  starts : ∀ c ∈ before.getLast?, isWord c = false
  ends : ∀ c ∈ after.head?, isWord c = false

def HasWord (text word after : List Char) : Prop :=
  ∃ before, text = before ++ (word ++ after) ∧ WordAt before word after

variable {text word after front back : List Char} {c : Char}

theorem hasWord_of_worded (worded : ∀ c ∈ text, isWord c = true) :
    HasWord text word after ↔ text ≠ [] ∧ word = text ∧ after = [] := by
  constructor
  · rintro ⟨before, rfl, filled, -, starts, ends⟩
    have none_before : before.getLast? = none := by
      refine Option.eq_none_iff_forall_not_mem.mpr fun c hc => ?_
      have told := worded c (List.mem_append_left _ (List.mem_of_mem_getLast? hc))
      cases told.symm.trans (starts c hc)
    have none_after : after.head? = none := by
      refine Option.eq_none_iff_forall_not_mem.mpr fun c hc => ?_
      have behind := List.mem_append_right word (List.mem_of_mem_head? hc)
      cases (worded c (List.mem_append_right _ behind)).symm.trans (ends c hc)
    obtain rfl := List.getLast?_eq_none_iff.mp none_before
    obtain rfl := List.head?_eq_none_iff.mp none_after
    simpa using filled
  · rintro ⟨filled, rfl, rfl⟩
    exact ⟨[], by simp, filled, worded, nofun, nofun⟩

theorem ends_append_iff (stop : isWord c = false) (rest : List Char) :
    (∀ d ∈ (rest ++ c :: back).head?, isWord d = false) ↔
      ∀ d ∈ rest.head?, isWord d = false := by
  cases rest <;> simp [stop]

theorem starts_append_iff (stop : isWord c = false) (before : List Char) :
    (∀ d ∈ (front ++ c :: before).getLast?, isWord d = false) ↔
      ∀ d ∈ before.getLast?, isWord d = false := by
  rw [List.getLast?_append, List.getLast?_cons]
  cases before.getLast? <;> simp [stop]

theorem hasWord_append_iff (stop : isWord c = false) :
    HasWord (front ++ c :: back) word after ↔
      (∃ rest, HasWord front word rest ∧ after = rest ++ c :: back) ∨ HasWord back word after := by
  constructor
  · rintro ⟨before, same, filled, worded, starts, ends⟩
    have not_mem : c ∉ word := fun hc => Bool.false_ne_true (stop.symm.trans (worded c hc))
    -- The word starts behind the character or in front of it, where it cannot reach over it.
    rcases List.append_eq_append_iff.mp same with ⟨skipped, rfl, behind⟩ | ⟨tail, rfl, behind⟩
    · cases skipped with
      | nil =>
          obtain ⟨d, others, rfl⟩ := List.exists_cons_of_ne_nil filled
          exact absurd (by simp [(List.cons.inj behind).1]) not_mem
      | cons d skipped =>
          obtain ⟨rfl, rfl⟩ := List.cons.inj behind
          have started := (starts_append_iff stop skipped).mp starts
          exact .inr ⟨skipped, rfl, filled, worded, started, ends⟩
    · rcases List.append_eq_append_iff.mp behind with ⟨rest, rfl, rfl⟩ | ⟨extra, rfl, tail_behind⟩
      · have ended := (ends_append_iff stop rest).mp ends
        exact .inl ⟨rest, ⟨before, rfl, filled, worded, starts, ended⟩, rfl⟩
      · cases extra with
        | nil =>
            refine .inl ⟨[], ⟨before, by simp, ?_⟩, by simpa using tail_behind.symm⟩
            exact ⟨by simpa using filled, by simpa using worded, starts, nofun⟩
        | cons d extra => exact absurd (by simp [(List.cons.inj tail_behind).1]) not_mem
  · rintro (⟨rest, ⟨before, rfl, filled, worded, starts, ends⟩, rfl⟩ |
      ⟨before, rfl, filled, worded, starts, ends⟩)
    · exact ⟨before, by simp, filled, worded, starts, (ends_append_iff stop rest).mpr ends⟩
    · refine ⟨front ++ c :: before, by simp, filled, worded, ?_, ends⟩
      exact (starts_append_iff stop before).mpr starts

def HoldsWord (text : List Char) : Prop :=
  ∃ c ∈ text, isWord c = true

theorem HoldsWord.append (h : HoldsWord text) (other : List Char) : HoldsWord (text ++ other) := by
  obtain ⟨c, hc, worded⟩ := h
  exact ⟨c, List.mem_append_left _ hc, worded⟩

/-! Small letters. -/

variable {tail before more : List Char}

theorem metByCased_append (unmet : metByCased tail = false) :
    metByCased (text ++ tail) = metByCased text := by
  unfold metByCased at unmet ⊢
  rw [List.dropWhile_append]
  cases text.dropWhile caseIgnorableRuns.holds with
  | nil => exact unmet
  | cons c rest => rfl

theorem lowerFrom_append (unmet : metByCased tail = false) :
    lowerFrom before (text ++ tail) =
      lowerFrom before text ++ lowerFrom (text.reverse ++ before) tail := by
  induction text generalizing before with
  | nil => rfl
  | cons c rest ih =>
      have here : lowerWithin before c (rest ++ tail) = lowerWithin before c rest := by
        rw [lowerWithin, lowerWithin, metByCased_append unmet]
      rw [List.cons_append, lowerFrom, lowerFrom, here, ih, List.append_assoc, List.reverse_cons,
        List.append_assoc, List.singleton_append]

theorem lowerFrom_behind (unmet : metByCased more = false) :
    lowerFrom (before ++ more) text = lowerFrom before text := by
  induction text generalizing before with
  | nil => rfl
  | cons c rest ih =>
      have here : lowerWithin (before ++ more) c rest = lowerWithin before c rest := by
        rw [lowerWithin, lowerWithin, metByCased_append unmet]
      rw [lowerFrom, lowerFrom, here, ← List.cons_append, ih]

theorem lower_spaced (text other : List Char) :
    lower (text ++ ' ' :: other) = lower text ++ ' ' :: lower other := by
  have unmet (rest : List Char) : metByCased (' ' :: rest) = false := rfl
  have front : lower (text ++ ' ' :: other) =
      lower text ++ lowerFrom (text.reverse ++ []) (' ' :: other) :=
    lowerFrom_append (unmet other)
  have back : lowerFrom ([] ++ ' ' :: (text.reverse ++ [])) other = lower other :=
    lowerFrom_behind (unmet _)
  rw [List.nil_append] at back
  rw [front, lowerFrom, back]
  rfl

/-- A colon is skipped and a star is not, so that the two change nothing in front of them. -/
theorem lower_marked (text : List Char) :
    lower (text ++ [':', '*']) = lower text ++ [':', '*'] := by
  have unmet : metByCased [':', '*'] = false := by decide
  rw [lower, lowerFrom_append unmet]
  rfl

/-! Small forms of word characters. -/

def isWordCode (n : Nat) : Bool :=
  (wordRuns.placeOf? n).isSome

/-- What a shift moves onto something else than word characters is none either. -/
theorem words_of_mem : ∀ s ∈ lowerShifts,
    wordRuns.includes s.back = true ∨ s.all (!isWordCode ·) = true := by
  decide +kernel

theorem isWordCode_smallCode {n : Nat} (h : isWordCode n = true) :
    isWordCode (smallCode n) = true := by
  rcases lower_cases n with stays | ⟨s, hs, moves, target, -⟩
  · rwa [stays]
  · rcases words_of_mem s hs with words | others
    · exact Runs.placeOf?_of_includes words target
    · have other := Shift.of_all others moves
      rw [h] at other
      cases other

theorem isWord_lowerChar {c : Char} (h : isWord c = true) : isWord (lowerChar c) = true := by
  change isWordCode (lowerChar c).toNat = true
  rw [toNat_lowerChar]
  exact isWordCode_smallCode h

theorem exists_word_lowerWithin {c : Char} (h : isWord c = true) (before after : List Char) :
    ∃ d ∈ lowerWithin before c after, isWord d = true := by
  unfold lowerWithin
  split
  · split
    · exact ⟨'ς', by simp, by decide⟩
    · exact ⟨'σ', by simp, by decide⟩
  · split
    · exact ⟨'i', by simp, by decide⟩
    · exact ⟨lowerChar c, by simp, isWord_lowerChar h⟩

theorem HoldsWord.lowerFrom (h : HoldsWord text) (before : List Char) :
    HoldsWord (lowerFrom before text) := by
  induction text generalizing before with
  | nil =>
      obtain ⟨c, hc, -⟩ := h
      cases hc
  | cons c rest ih =>
      obtain ⟨d, hd, worded⟩ := h
      rcases List.mem_cons.mp hd with rfl | behind
      · obtain ⟨e, he, small⟩ := exists_word_lowerWithin worded before rest
        exact ⟨e, List.mem_append_left _ he, small⟩
      · obtain ⟨e, he, small⟩ := ih ⟨d, behind, worded⟩ (c :: before)
        exact ⟨e, List.mem_append_right _ he, small⟩

end TableServer.Text
