import TableServer.Proofs.Value.StringReader
import Mathlib.Data.List.TakeWhile

/-! The extent of tokens: strings, numbers and words. What a reader takes from the front of a text
it takes again where less of the text follows, so that the text behind a token does not matter. -/
namespace TableServer.Value

open Grammar

section Strings

variable {start text rest : Codes}

theorem shown_ne {c : CodePoint} {mark : Char} (other : c ≠ mark) (shown : mark ≠ '\uFFFD') :
    c.shown ≠ mark := by
  cases c with
  | char c => exact fun same => other (congrArg CodePoint.char same)
  | surrogate place => exact fun same => shown same.symm

theorem protected_prepend {front : Codes} {rest : List Char}
    (plain : ∀ c ∈ front, c ≠ .char '"' ∧ c ≠ .char '\\') (h : Protected rest) :
    Protected (front.shown ++ rest) := by
  refine h.prepend fun c hc => ?_
  obtain ⟨d, hd, rfl⟩ := List.mem_map.mp hc
  exact ⟨shown_ne (plain d hd).1 (by decide), shown_ne (plain d hd).2 (by decide)⟩

theorem readHex?_eq_some {n : Nat} (h : readHex? text = some (n, rest)) :
    ∃ figures, text = figures ++ rest ∧ (∀ c ∈ figures, c ≠ .char '"' ∧ c ≠ .char '\\') ∧
      ∀ more, more ≠ [] → readHex? (figures ++ more) = some (n, more) := by
  unfold readHex? at h
  split at h
  · rename_i a b c d e _
    split at h
    · rename_i ha hb hc hd
      cases h
      refine ⟨[a, b, c, d], rfl, ?_, fun more behind => ?_⟩
      · simpa using ⟨plain_of_hexValue? ha, plain_of_hexValue? hb, plain_of_hexValue? hc,
          plain_of_hexValue? hd⟩
      · obtain ⟨e, others, rfl⟩ := List.exists_cons_of_ne_nil behind
        simp [readHex?, ha, hb, hc, hd]
    · cases h
  · cases h

theorem readLowSurrogate?_eq_some {n : Nat} (h : readLowSurrogate? text = some (n, rest)) :
    ∃ figures, text = .char '\\' :: .char 'u' :: (figures ++ rest) ∧
      (∀ c ∈ figures, c ≠ .char '"' ∧ c ≠ .char '\\') ∧
      ∀ more, more ≠ [] →
        readLowSurrogate? (.char '\\' :: .char 'u' :: (figures ++ more)) = some (n, more) := by
  unfold readLowSurrogate? at h
  split at h
  · split at h
    · rename_i hex
      split at h
      · rename_i low
        cases h
        obtain ⟨figures, rfl, plain, kept⟩ := readHex?_eq_some hex
        refine ⟨figures, rfl, plain, fun more behind => ?_⟩
        simp only [readLowSurrogate?, kept more behind, low, if_true]
      · cases h
    · cases h
  · cases h

/-- Whether a pair is completed does not depend on what stands behind the next quote. -/
theorem readLowSurrogate?_eq_none {inner : Codes}
    (h : readLowSurrogate? (inner ++ .char '"' :: rest) = none) (more : Codes) :
    readLowSurrogate? (inner ++ .char '"' :: more) = none := by
  refine Option.eq_none_iff_forall_ne_some.mpr ?_
  rintro ⟨n, tail⟩ found
  obtain ⟨figures, spelt, plain, kept⟩ := readLowSurrogate?_eq_some found
  -- The code ends in front of the quote, and so is found in front of the other text as well.
  obtain ⟨others, rfl⟩ : ∃ others, inner = .char '\\' :: .char 'u' :: (figures ++ others) := by
    rw [← List.cons_append, ← List.cons_append] at spelt
    rcases List.append_eq_append_iff.mp spelt with ⟨within, code, behind⟩ | ⟨others, ahead, -⟩
    · cases within with
      | nil => exact ⟨[], by simpa using code.symm⟩
      | cons c within =>
          obtain rfl : .char '"' = c := (List.cons_eq_cons.mp behind).1
          have member : CodePoint.char '"' ∈ .char '\\' :: .char 'u' :: figures := by simp [code]
          have hidden : CodePoint.char '"' ∈ figures := by simpa using member
          exact absurd rfl (plain _ hidden).1
    · exact ⟨others, by simpa using ahead⟩
  have same := kept (others ++ .char '"' :: rest) (by simp)
  rw [← List.append_assoc, ← List.cons_append, ← List.cons_append, h] at same
  cases same

/-- An escape in front of what the next quote ends stands there whatever is behind this quote. -/
theorem readEscape_extent {e : CodePoint} {inner : Codes}
    (h : readEscape start text = .ok (e, inner ++ .char '"' :: rest))
    (hidden : Protected inner.shown) :
    ∃ used, text = used ++ .char '"' :: rest ∧ Protected ('\\' :: used.shown) ∧ ∀ start' more,
      readEscape start' (used ++ .char '"' :: more) = .ok (e, inner ++ .char '"' :: more) := by
  unfold readEscape at h
  split at h
  · cases h
  · rename_i c behind
    split at h
    · rename_i code
      subst code
      split at h
      · cases h
      · rename_i n tail hex
        obtain ⟨figures, rfl, plain, kept⟩ := readHex?_eq_some hex
        split at h
        · rename_i high
          split at h
          · rename_i low _ paired
            simp only [Except.ok.injEq, Prod.mk.injEq] at h
            obtain ⟨rfl, rfl⟩ := h
            obtain ⟨others, rfl, plain', kept'⟩ := readLowSurrogate?_eq_some paired
            refine ⟨.char 'u' :: (figures ++ .char '\\' :: .char 'u' :: (others ++ inner)), by simp,
              ?_, ?_⟩
            · exact .escape 'u' (by
                simpa [Codes.shown] using
                  protected_prepend plain (.escape 'u' (protected_prepend plain' hidden)))
            · intro start' more
              have first := kept
                (.char '\\' :: .char 'u' :: (others ++ (inner ++ .char '"' :: more))) (by simp)
              have second := kept' (inner ++ .char '"' :: more) (by simp)
              simp [readEscape, first, second, high]
          · rename_i single
            cases h
            refine ⟨.char 'u' :: (figures ++ inner), by simp,
              .escape 'u' (by simpa [Codes.shown] using protected_prepend plain hidden),
              fun start' more => ?_⟩
            have first := kept (inner ++ .char '"' :: more) (by simp)
            simp [readEscape, first, readLowSurrogate?_eq_none single more, high]
        · rename_i high
          cases h
          refine ⟨.char 'u' :: (figures ++ inner), by simp,
              .escape 'u' (by simpa [Codes.shown] using protected_prepend plain hidden),
            fun start' more => ?_⟩
          have first := kept (inner ++ .char '"' :: more) (by simp)
          simp [readEscape, first, high]
    · rename_i other
      split at h
      · rename_i _ simple
        cases h
        refine ⟨c :: inner, rfl, .escape c.shown hidden, fun start' more => ?_⟩
        simp [readEscape, other, simple]
      · cases h

theorem readString_extent {cs : Codes} (h : readString start text = .ok (cs, rest)) :
    ∃ inner, text = inner ++ .char '"' :: rest ∧ Protected inner.shown ∧ ∀ start' more,
      readString start' (inner ++ .char '"' :: more) = .ok (cs, more) := by
  fun_induction readString start text generalizing cs with
  | case1 => cases h
  | case2 =>
      cases h
      refine ⟨[], rfl, .nil, fun start' more => ?_⟩
      rw [List.nil_append, readString, if_pos rfl]
  | case3 => cases h
  | case4 behind e tail escape _ _ ih =>
      obtain ⟨⟨cs, rest⟩, read, he⟩ := map_eq_ok h
      cases he
      obtain ⟨inner, rfl, hidden, kept⟩ := ih read
      obtain ⟨used, rfl, escaped, kept'⟩ := readEscape_extent escape hidden
      refine ⟨.char '\\' :: used, rfl, escaped, fun start' more => ?_⟩
      rw [List.cons_append, readString_escape (kept' start' more), kept start' more, Except.map]
  | case5 => cases h
  | case6 c behind quote backslash shown ih =>
      obtain ⟨⟨cs, rest⟩, read, he⟩ := map_eq_ok h
      cases he
      obtain ⟨inner, rfl, hidden, kept⟩ := ih read
      refine ⟨c :: inner, rfl,
        .plain (shown_ne quote (by decide)) (shown_ne backslash (by decide)) hidden,
        fun start' more => ?_⟩
      rw [List.cons_append, readString, if_neg quote, if_neg backslash, if_neg shown,
        kept start' more, Except.map]

end Strings

section Scalars

variable {text rest less : Codes}

theorem span_of_less {p : CodePoint → Bool} (h : less <+: text.dropWhile p) :
    (text.takeWhile p ++ less).takeWhile p = text.takeWhile p ∧
      (text.takeWhile p ++ less).dropWhile p = less := by
  have all : ∀ c ∈ text.takeWhile p, p c = true := fun c hc => List.mem_takeWhile_imp hc
  rw [List.takeWhile_append_of_pos all, List.dropWhile_append_of_pos all]
  cases less with
  | nil => simp
  | cons c less =>
      obtain ⟨others, behind⟩ := h
      have ended := List.head?_dropWhile_not p text
      rw [← behind] at ended
      simp only [List.cons_append, List.head?_cons] at ended
      simp [ended]

theorem takeWhile_of_less {p : CodePoint → Bool} (h : less <+: text)
    (none : text.takeWhile p = []) :
    less.takeWhile p = [] := by
  have whole : text.dropWhile p = text := by
    simpa [none] using List.takeWhile_append_dropWhile (p := p) (l := text)
  have ended := (span_of_less (p := p) (whole.symm ▸ h)).1
  rwa [none] at ended

/-- A reader takes a token from the front of a text: plain characters, which it takes as well where
less of the text follows them. -/
def TakesToken {β : Type} (read result : Codes → β) (text rest : Codes) : Prop :=
  ∃ used, text = used ++ rest ∧ used.shown.all Neutral.isPlain = true ∧
    ∀ less, less <+: rest → read (used ++ less) = result less

theorem isPlain_shown_of_isDigit {c : CodePoint} (h : c.isDigit = true) :
    Neutral.isPlain c.shown = true := by
  cases c with
  | char c => exact Neutral.isPlain_of (p := Char.isDigit) h (by decide)
  | surrogate place => cases h

theorem all_isPlain_takeWhile (text : Codes) :
    (Codes.shown (text.takeWhile CodePoint.isDigit)).all Neutral.isPlain = true := by
  refine List.all_eq_true.mpr fun c hc => ?_
  obtain ⟨d, hd, rfl⟩ := List.mem_map.mp hc
  exact isPlain_shown_of_isDigit (List.mem_takeWhile_imp hd)

theorem takesToken_scanMinus (text : Codes) :
    TakesToken scanMinus (fun less => ((scanMinus text).1, less)) text (scanMinus text).2 := by
  unfold scanMinus
  split
  · exact ⟨[.char '-'], rfl, rfl, fun less _ => rfl⟩
  · rename_i other
    refine ⟨[], rfl, rfl, ?_⟩
    rintro less ⟨behind, rfl⟩
    dsimp only [List.nil_append]
    split
    · rename_i rest
      exact absurd rfl (other (rest ++ behind))
    · rfl

theorem takesToken_splitSign (text : Codes) :
    TakesToken splitSign (fun less => ((splitSign text).1, less)) text
      (splitSign text).2 := by
  unfold splitSign
  split
  · exact ⟨[.char '-'], rfl, rfl, fun less _ => rfl⟩
  · exact ⟨[.char '+'], rfl, rfl, fun less _ => rfl⟩
  · rename_i minus plus
    refine ⟨[], rfl, rfl, ?_⟩
    rintro less ⟨behind, rfl⟩
    dsimp only [List.nil_append]
    split
    · rename_i rest
      exact absurd rfl (minus (rest ++ behind))
    · rename_i rest
      exact absurd rfl (plus (rest ++ behind))
    · rfl

theorem splitSign_of_less (h : less <+: text) :
    (splitSign less).2 <+: (splitSign text).2 := by
  obtain ⟨behind, rfl⟩ := h
  cases less with
  | nil => exact List.nil_prefix
  | cons c less =>
      by_cases minus : c = .char '-'
      · subst minus
        exact ⟨behind, rfl⟩
      · by_cases plus : c = .char '+'
        · subst plus
          exact ⟨behind, rfl⟩
        · simp [splitSign, minus, plus]

theorem takesToken_scanWhole (digits : (scanWhole text).1 ≠ []) :
    TakesToken scanWhole (fun less => ((scanWhole text).1, less)) text (scanWhole text).2 := by
  cases text with
  | nil => cases digits rfl
  | cons c rest =>
      by_cases zero : c = .char '0'
      · subst zero
        exact ⟨[.char '0'], rfl, rfl, fun less _ => rfl⟩
      · simp only [scanWhole, if_neg zero] at digits ⊢
        refine ⟨_, List.takeWhile_append_dropWhile.symm, ?_, fun less h => ?_⟩
        · exact all_isPlain_takeWhile _
        · obtain ⟨taken, left⟩ := span_of_less h
          have first : c.isDigit = true := by
            by_contra none
            exact digits (List.takeWhile_cons_of_neg none)
          rw [List.takeWhile_cons_of_pos first, List.cons_append] at taken left ⊢
          rw [scanWhole, if_neg zero, taken, left]

theorem takesToken_scanFraction (text : Codes) :
    TakesToken scanFraction (fun less => ((scanFraction text).1, less)) text
      (scanFraction text).2 := by
  unfold scanFraction
  split
  · rename_i rest
    split
    · rename_i none
      refine ⟨[], rfl, rfl, fun less h => ?_⟩
      rw [List.nil_append]
      rcases List.prefix_cons_iff.mp h with rfl | ⟨less, rfl, shorter⟩
      · rfl
      · exact if_pos (List.isEmpty_iff.mpr (takeWhile_of_less shorter (List.isEmpty_iff.mp none)))
    · rename_i some
      refine ⟨.char '.' :: rest.takeWhile CodePoint.isDigit, by simp, ?_, fun less h => ?_⟩
      · exact all_isPlain_takeWhile rest
      · obtain ⟨taken, left⟩ := span_of_less h
        simp only [List.cons_append, taken, left]
        exact if_neg some
  · rename_i other
    refine ⟨[], rfl, rfl, ?_⟩
    rintro less ⟨behind, rfl⟩
    dsimp only [List.nil_append]
    split
    · rename_i rest
      exact absurd rfl (other (rest ++ behind))
    · rfl

theorem takesToken_scanExponent? {e : Int} (h : scanExponent? text = some (e, rest)) :
    TakesToken scanExponent? (fun less => some (e, less)) text rest := by
  unfold scanExponent? at h
  split at h
  · rename_i c behind
    split at h
    · rename_i mark
      obtain ⟨sign, spelt, plain, kept⟩ := takesToken_splitSign behind
      dsimp only at h
      split at h
      · cases h
      · rename_i some
        obtain ⟨rfl, rfl⟩ : _ = e ∧ _ = rest := by simpa using h
        refine ⟨c :: (sign ++ (splitSign behind).2.takeWhile CodePoint.isDigit), ?_, ?_, ?_⟩
        · rw [List.cons_append, List.append_assoc, List.takeWhile_append_dropWhile, ← spelt]
        · have letter : Neutral.isPlain c.shown = true := by rcases mark with rfl | rfl <;> rfl
          simp [letter, plain, all_isPlain_takeWhile]
        · intro less shorter
          obtain ⟨taken, left⟩ := span_of_less shorter
          have signed := kept ((splitSign behind).2.takeWhile CodePoint.isDigit ++ less) (by
            obtain ⟨others, whole⟩ := shorter
            exact ⟨others, by rw [List.append_assoc, whole, List.takeWhile_append_dropWhile]⟩)
          rw [List.cons_append, List.append_assoc, scanExponent?, if_pos mark]
          simp only [signed, taken, left, some]
          rfl
    · cases h
  · cases h

theorem scanExponent?_eq_none (h : scanExponent? text = none) (shorter : less <+: text) :
    scanExponent? less = none := by
  cases text with
  | nil => rwa [List.prefix_nil.mp shorter]
  | cons c behind =>
      rcases List.prefix_cons_iff.mp shorter with rfl | ⟨less, rfl, inner⟩
      · rfl
      · rw [scanExponent?] at h ⊢
        split at h
        · rename_i mark
          dsimp only at h ⊢
          split at h
          · rename_i none
            rw [if_pos mark, if_pos]
            exact List.isEmpty_iff.mpr
              (takeWhile_of_less (splitSign_of_less inner) (List.isEmpty_iff.mp none))
          · cases h
        · rename_i mark
          exact if_neg mark

/-- The number of a sign, a whole part and a fraction, with the exponent that may follow them. -/
def numberOf (negative : Bool) (whole fraction rest : Codes) :
    Except ReadFault (Number × Codes) :=
  let digits := digitsNumber (whole ++ fraction)
  match scanExponent? rest with
  | some (e, tail) => .ok (.double (Double.ofDecimal negative digits (e - fraction.length)), tail)
  | none =>
      if !fraction.isEmpty then
        .ok (.double (Double.ofDecimal negative digits (-fraction.length)), rest)
      else if Number.digitLimit < whole.length then .error (.integerTooLong whole.length)
      else .ok (.integer (Number.signed negative digits), rest)

theorem readNumber_eq {negative : Bool} {whole fraction behindSign behindWhole : Codes}
    (sign : scanMinus text = (negative, behindSign))
    (digits : scanWhole behindSign = (whole, behindWhole))
    (point : scanFraction behindWhole = (fraction, rest)) :
    readNumber text = if whole.isEmpty then .error (.malformed .expectedValue text)
      else numberOf negative whole fraction rest := by
  simp only [readNumber, sign, digits, point]
  rfl

theorem takesToken_numberOf {negative : Bool} {whole fraction : Codes} {n : Number}
    (h : numberOf negative whole fraction text = .ok (n, rest)) :
    TakesToken (numberOf negative whole fraction) (fun less => .ok (n, less)) text rest := by
  unfold numberOf at h
  dsimp only at h
  split at h
  · rename_i e tail exponent
    simp only [Except.ok.injEq, Prod.mk.injEq] at h
    obtain ⟨rfl, rfl⟩ := h
    obtain ⟨used, spelt, plain, kept⟩ := takesToken_scanExponent? exponent
    refine ⟨used, spelt, plain, fun less shorter => ?_⟩
    simp only [numberOf, kept less shorter]
  · rename_i none
    have unmarked : ∀ less, less <+: text → scanExponent? less = Option.none :=
      fun less shorter => scanExponent?_eq_none none shorter
    split at h
    · rename_i point
      simp only [Except.ok.injEq, Prod.mk.injEq] at h
      obtain ⟨rfl, rfl⟩ := h
      refine ⟨[], rfl, rfl, fun less shorter => ?_⟩
      simp only [numberOf, List.nil_append, unmarked less shorter, point, if_true]
    · rename_i point
      split at h
      · cases h
      · rename_i short
        simp only [Except.ok.injEq, Prod.mk.injEq] at h
        obtain ⟨rfl, rfl⟩ := h
        refine ⟨[], rfl, rfl, fun less shorter => ?_⟩
        simp only [numberOf, List.nil_append, unmarked less shorter, if_neg point, if_neg short]

theorem takesToken_readNumber {n : Number} (h : readNumber text = .ok (n, rest)) :
    TakesToken readNumber (fun less => .ok (n, less)) text rest := by
  obtain ⟨sign, spelt_sign, plain_sign, sign_kept⟩ := takesToken_scanMinus text
  rcases hs : scanMinus text with ⟨negative, behindSign⟩
  obtain ⟨point, spelt_point, plain_point, point_kept⟩ :=
    takesToken_scanFraction (scanWhole behindSign).2
  have digits_kept : (scanWhole behindSign).1 ≠ [] → _ := takesToken_scanWhole
  rcases hw : scanWhole behindSign with ⟨whole, behindWhole⟩
  rcases hp : scanFraction behindWhole with ⟨fraction, left⟩
  rw [readNumber_eq hs hw hp] at h
  simp only [hs, hw, hp] at *
  split at h
  · cases h
  · rename_i digits
    obtain ⟨figures, spelt_figures, plain_figures, figures_kept⟩ :=
      digits_kept (mt List.isEmpty_iff.mpr digits)
    obtain ⟨exponent, rfl, plain_exponent, kept⟩ := takesToken_numberOf h
    refine ⟨sign ++ (figures ++ (point ++ exponent)), ?_, ?_, fun less shorter => ?_⟩
    · rw [spelt_sign, spelt_figures, spelt_point]
      simp only [List.append_assoc]
    · simp [plain_sign, plain_figures, plain_point, plain_exponent]
    · have third : exponent ++ less <+: exponent ++ rest :=
        (List.prefix_append_right_inj _).mpr shorter
      have second : point ++ (exponent ++ less) <+: behindWhole := by
        rw [spelt_point]
        exact (List.prefix_append_right_inj _).mpr third
      have first : figures ++ (point ++ (exponent ++ less)) <+: behindSign := by
        rw [spelt_figures]
        exact (List.prefix_append_right_inj _).mpr second
      simp only [List.append_assoc]
      rw [readNumber_eq (sign_kept _ first) (figures_kept _ second) (point_kept _ third),
        if_neg digits, kept less shorter]

theorem takesToken_readWord? {v : Value} {words : List (String × Value)}
    (plain : ∀ w ∈ words, w.1.toList.all Neutral.isPlain = true)
    (h : readWord? text words = some (v, rest)) :
    TakesToken (readWord? · words) (fun less => some (v, less)) text rest := by
  induction words with
  | nil => cases h
  | cons w others ih =>
      obtain ⟨word, value⟩ := w
      rw [readWord?] at h
      split at h
      · rename_i found
        simp only [Option.some.injEq, Prod.mk.injEq] at h
        obtain ⟨rfl, rfl⟩ := h
        obtain ⟨behind, rfl⟩ := List.isPrefixOf_iff_prefix.mp found
        have dropped : ∀ more, (Codes.ofString word ++ more).drop word.length = more :=
          fun more => List.drop_left' (Codes.length_ofString word)
        refine ⟨word, by rw [dropped], ?_, fun less _ => ?_⟩
        · rw [Codes.shown_ofString]
          exact plain (word, value) (by simp)
        simp [readWord?, dropped]
      · rename_i missing
        obtain ⟨used, rfl, plain, kept⟩ := ih (fun w hw => plain w (List.mem_cons_of_mem _ hw)) h
        refine ⟨used, rfl, plain, fun less shorter => ?_⟩
        have none : ¬(Codes.ofString word).isPrefixOf (used ++ less) = true := by
          refine fun found => missing ?_
          rw [List.isPrefixOf_iff_prefix] at found ⊢
          exact found.trans ((List.prefix_append_right_inj used).mpr shorter)
        dsimp only
        rw [readWord?, if_neg none]
        exact kept less shorter

theorem readWord?_eq_none {words : List (String × Value)} (h : readWord? text words = none)
    (shorter : less <+: text) : readWord? less words = none := by
  induction words with
  | nil => rfl
  | cons w others ih =>
      obtain ⟨word, value⟩ := w
      rw [readWord?] at h ⊢
      split at h
      · cases h
      · rename_i missing
        rw [if_neg fun found => missing ?_, ih h]
        rw [List.isPrefixOf_iff_prefix] at found ⊢
        exact found.trans shorter

end Scalars

end TableServer.Value
