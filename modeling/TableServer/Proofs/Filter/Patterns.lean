import TableServer.Proofs.Filter.Conditions
import TableServer.Proofs.Outcome
import TableServer.Proofs.Text.Case

/-! Patterns as languages. A pattern covers the texts that can be cut into one piece for each of its
characters. Without regard to case it covers more texts, and the case of ASCII letters is of no
account in it. -/
namespace TableServer

namespace CodePoint

/-- The letters that a character of a pattern is without regard to case. A surrogate is none. -/
def IsLetter (p : Char) (c : CodePoint) : Prop :=
  ∃ d, c = .char d ∧ Text.SameLetter p d

def SameAscii (a b : CodePoint) : Prop :=
  a = b ∨ ∃ c d, a = .char c ∧ b = .char d ∧ Text.SameAscii c d

theorem SameAscii.symm {a b : CodePoint} (h : SameAscii a b) : SameAscii b a := by
  rcases h with rfl | ⟨c, d, rfl, rfl, same⟩
  · exact .inl rfl
  · exact .inr ⟨d, c, rfl, rfl, same.symm⟩

theorem SameAscii.isLetter {a b : CodePoint} {p : Char} (h : SameAscii a b)
    (letter : IsLetter p b) :
    IsLetter p a := by
  rcases h with rfl | ⟨c, d, rfl, rfl, same⟩
  · exact letter
  · obtain ⟨_, ⟨⟩, letter⟩ := letter
    exact ⟨c, rfl, by rwa [Text.SameLetter, same.lowerChar_eq]⟩

theorem forall₂_sameAscii {text other : List Char} (h : List.Forall₂ Text.SameAscii text other) :
    List.Forall₂ SameAscii (Codes.ofChars text) (Codes.ofChars other) := by
  refine List.forall₂_map_left_iff.mpr (List.forall₂_map_right_iff.mpr (h.imp fun c d same => ?_))
  exact .inr ⟨c, d, rfl, rfl, same⟩

end CodePoint

namespace Pattern

section

variable {α : Type}

/-- The pieces of text that a character of a pattern stands for. -/
def StandsFor (same : Char → α → Prop) (p : Char) (piece : List α) : Prop :=
  if p = '%' ∨ p = '*' then True
  else if p = '_' then ∃ c, piece = [c]
  else ∃ c, piece = [c] ∧ same p c

/-- Texts that can be cut into one piece for each character of a pattern, in order. -/
def Cuts (same : Char → α → Prop) (pattern : List Char) (text : List α) : Prop :=
  ∃ pieces, List.Forall₂ (StandsFor same) pattern pieces ∧ text = pieces.flatten

variable {same other : Char → α → Prop} {p : Char} {pattern : List Char} {text : List α}

theorem cuts_nil : Cuts same [] text ↔ text = [] := by
  constructor
  · rintro ⟨pieces, stand, rfl⟩
    rw [List.forall₂_nil_left_iff.mp stand, List.flatten_nil]
  · rintro rfl
    exact ⟨[], .nil, rfl⟩

theorem cuts_cons : Cuts same (p :: pattern) text ↔
    ∃ piece tail, StandsFor same p piece ∧ Cuts same pattern tail ∧ text = piece ++ tail := by
  constructor
  · rintro ⟨pieces, stand, rfl⟩
    obtain ⟨piece, pieces, first, behind, rfl⟩ := List.forall₂_cons_left_iff.mp stand
    exact ⟨piece, pieces.flatten, first, ⟨pieces, behind, rfl⟩, List.flatten_cons⟩
  · rintro ⟨piece, _, first, ⟨pieces, behind, rfl⟩, rfl⟩
    exact ⟨piece :: pieces, .cons first behind, List.flatten_cons.symm⟩

theorem Cuts.imp (more : ∀ p c, same p c → other p c) (h : Cuts same pattern text) :
    Cuts other pattern text := by
  obtain ⟨pieces, stand, rfl⟩ := h
  refine ⟨pieces, stand.imp fun p piece told => ?_, rfl⟩
  unfold StandsFor at told ⊢
  split_ifs at told ⊢
  · exact told
  · exact told.imp fun c hc => ⟨hc.1, more p c hc.2⟩

theorem someSuffix_iff {test : List α → Bool} :
    someSuffix test text = true ↔ ∃ front tail, text = front ++ tail ∧ test tail = true := by
  induction text with
  | nil => simp [someSuffix]
  | cons c rest ih =>
      rw [someSuffix, Bool.or_eq_true, ih]
      constructor
      · rintro (whole | ⟨front, tail, rfl, found⟩)
        · exact ⟨[], c :: rest, rfl, whole⟩
        · exact ⟨c :: front, tail, rfl, found⟩
      · rintro ⟨front, tail, split, found⟩
        cases front with
        | nil => exact .inl (split ▸ found)
        | cons d front =>
            cases split
            exact .inr ⟨front, tail, rfl, found⟩

theorem covers_read_iff {same : Char → α → Bool} :
    covers same (read pattern) text = true ↔ Cuts (fun p c => same p c = true) pattern text := by
  induction pattern generalizing text with
  | nil => rw [cuts_nil, read, List.map_nil, covers, List.isEmpty_iff]
  | cons p pattern ih =>
      change covers same (pieceOf p :: read pattern) text = true ↔ _
      rw [cuts_cons]
      unfold pieceOf StandsFor
      split_ifs with many one
      · simp only [covers, someSuffix_iff, ih, true_and]
        exact ⟨fun ⟨front, tail, h, cut⟩ => ⟨front, tail, cut, h⟩,
          fun ⟨front, tail, cut, h⟩ => ⟨front, tail, h, cut⟩⟩
      · cases text with
        | nil => simp [covers]
        | cons c rest => simp [covers, ih]
      · cases text with
        | nil => simp [covers]
        | cons c rest => simp [covers, ih]

end

/-! Patterns and texts that differ in the case of ASCII letters. -/

section

open CodePoint (IsLetter)

variable {p q : Char} {pattern switched : List Char} {piece piece' text switchedText : Codes}

theorem standsFor_of_sameAscii (h : Text.SameAscii p q) (stands : StandsFor IsLetter p piece) :
    StandsFor IsLetter q piece := by
  have percent : p = '%' ↔ q = '%' := h.eq_mark_iff (by decide) rfl
  have star : p = '*' ↔ q = '*' := h.eq_mark_iff (by decide) rfl
  have line : p = '_' ↔ q = '_' := h.eq_mark_iff (by decide) rfl
  simp only [StandsFor, IsLetter, Text.SameLetter, percent, star, line, h.lowerChar_eq] at stands ⊢
  exact stands

theorem standsFor_of_switched (h : List.Forall₂ CodePoint.SameAscii piece' piece)
    (stands : StandsFor IsLetter p piece) : StandsFor IsLetter p piece' := by
  unfold StandsFor at stands ⊢
  split_ifs at stands ⊢
  · obtain ⟨c, rfl⟩ := stands
    obtain ⟨d, rest, -, behind, rfl⟩ := List.forall₂_cons_right_iff.mp h
    rw [List.forall₂_nil_right_iff.mp behind]
    exact ⟨d, rfl⟩
  · obtain ⟨c, rfl, letter⟩ := stands
    obtain ⟨d, rest, same, behind, rfl⟩ := List.forall₂_cons_right_iff.mp h
    rw [List.forall₂_nil_right_iff.mp behind]
    exact ⟨d, rfl, same.isLetter letter⟩

theorem Cuts.switch_pattern (h : List.Forall₂ Text.SameAscii pattern switched)
    (cuts : Cuts IsLetter pattern text) : Cuts IsLetter switched text := by
  induction h generalizing text with
  | nil => exact cuts
  | cons same _ ih =>
      obtain ⟨piece, tail, first, behind, rfl⟩ := cuts_cons.mp cuts
      exact cuts_cons.mpr ⟨piece, tail, standsFor_of_sameAscii same first, ih behind, rfl⟩

theorem Cuts.switch_text (h : List.Forall₂ CodePoint.SameAscii switchedText text)
    (cuts : Cuts IsLetter pattern text) : Cuts IsLetter pattern switchedText := by
  induction pattern generalizing text switchedText with
  | nil =>
      rw [cuts_nil] at cuts ⊢
      rw [cuts, List.forall₂_nil_right_iff] at h
      exact h
  | cons p pattern ih =>
      obtain ⟨piece, tail, first, behind, rfl⟩ := cuts_cons.mp cuts
      have front := List.forall₂_take_append switchedText piece tail h
      have back := List.forall₂_drop_append switchedText piece tail h
      exact cuts_cons.mpr ⟨_, _, standsFor_of_switched front first, ih back behind,
        (List.take_append_drop piece.length switchedText).symm⟩

theorem cuts_switched_pattern_iff (h : List.Forall₂ Text.SameAscii pattern switched) :
    Cuts IsLetter pattern text ↔ Cuts IsLetter switched text := by
  have back : List.Forall₂ Text.SameAscii switched pattern := .flip (h.imp fun _ _ => .symm)
  exact ⟨Cuts.switch_pattern h, Cuts.switch_pattern back⟩

theorem cuts_switched_text_iff (h : List.Forall₂ CodePoint.SameAscii text switchedText) :
    Cuts IsLetter pattern text ↔ Cuts IsLetter pattern switchedText := by
  have back : List.Forall₂ CodePoint.SameAscii switchedText text := .flip (h.imp fun _ _ => .symm)
  exact ⟨Cuts.switch_text back, Cuts.switch_text h⟩

end

end Pattern

namespace Filter

section

variable {pattern : List Char} {v : Value}

theorem not_isNull_iff : (!v.isNull) = true ↔ v ≠ .null := by
  cases v <;> simp [Value.isNull]

theorem like_holds_iff : (Test.like (Pattern.read pattern)).holds v = true ↔
    v ≠ .null ∧ Pattern.Cuts (.char · = ·) pattern v.text := by
  rw [Test.holds, Bool.and_eq_true, not_isNull_iff, Pattern.coversExactly, Pattern.covers_read_iff]
  simp only [beq_iff_eq]

theorem ilike_holds_iff : (Test.likeFolded (Pattern.read pattern)).holds v = true ↔
    v ≠ .null ∧ Pattern.Cuts CodePoint.IsLetter pattern v.text := by
  rw [Test.holds, Bool.and_eq_true, not_isNull_iff, Pattern.coversFolded, Pattern.covers_read_iff]
  refine and_congr_right fun _ => ⟨.imp fun p c same => ?_, .imp fun p c letter => ?_⟩
  · cases c with
    | char d => exact ⟨d, rfl, (Text.sameFolded_iff p d).mp same⟩
    | surrogate place => cases same
  · obtain ⟨d, rfl, same⟩ := letter
    exact (Text.sameFolded_iff p d).mpr same

theorem ilike_of_like (h : (Test.like (Pattern.read pattern)).holds v = true) :
    (Test.likeFolded (Pattern.read pattern)).holds v = true := by
  obtain ⟨some, cuts⟩ := like_holds_iff.mp h
  refine ilike_holds_iff.mpr ⟨some, cuts.imp ?_⟩
  rintro p _ rfl
  exact ⟨p, rfl, rfl⟩

end

/-- Both pattern operators decide their language. What is matched with regard to case is matched
without it, and then the case of ASCII letters is of no account in patterns and in strings. -/
theorem patterns_decide (column pattern : List Char) {members : Members} {v : Value}
    (held : resolveColumn members (String.ofList column) = .ok v) :
    ∃ a b, Answers column (expression .like pattern) (.object members) a ∧
      Answers column (expression .ilike pattern) (.object members) b ∧
      (a = true ↔ v ≠ .null ∧ Pattern.Cuts (.char · = ·) pattern v.text) ∧
      (b = true ↔ v ≠ .null ∧ Pattern.Cuts CodePoint.IsLetter pattern v.text) ∧
      (a = true → b = true) ∧
      (∀ switched, List.Forall₂ Text.SameAscii pattern switched →
        Answers column (expression .ilike switched) (.object members) b) ∧
      ∀ s t others, v = .string s → List.Forall₂ CodePoint.SameAscii s t →
        resolveColumn others (String.ofList column) = .ok (.string t) →
          Answers column (expression .ilike pattern) (.object others) b := by
  refine ⟨_, _, answers_expression rfl held, answers_expression rfl held, like_holds_iff,
    ilike_holds_iff, ilike_of_like, fun switched h => ?_, fun s t others hv h held' => ?_⟩
  · have same : (Test.likeFolded (Pattern.read switched)).holds v =
        (Test.likeFolded (Pattern.read pattern)).holds v := by
      rw [Bool.eq_iff_iff, ilike_holds_iff, ilike_holds_iff, Pattern.cuts_switched_pattern_iff h]
    rw [← same]
    exact answers_expression rfl held
  · subst hv
    have same : (Test.likeFolded (Pattern.read pattern)).holds (.string t) =
        (Test.likeFolded (Pattern.read pattern)).holds (.string s) := by
      rw [Bool.eq_iff_iff, ilike_holds_iff, ilike_holds_iff]
      simp only [Value.text, Pattern.cuts_switched_text_iff h, ne_eq, reduceCtorEq,
        not_false_eq_true, true_and]
    rw [← same]
    exact answers_expression rfl held'

theorem patterns_decide_of_lines :
    resolveColumn [("t", .string "a.b\nc(d)")] "t" = .ok (.string "a.b\nc(d)") ∧
      Answers "t".toList (expression .like "a.*c(_)%".toList)
        (.object [("t", .string "a.b\nc(d)")]) true ∧
      Answers "t".toList (expression .ilike "A.*C(_)%".toList)
        (.object [("t", .string "a.b\nc(d)")]) true ∧
      Answers "t".toList (expression .ilike "a.*c(_)%".toList)
        (.object [("t", .string "A.b\nC(D)")]) true := by
  have held : resolveColumn [("t", .string "a.b\nc(d)")] "t" = .ok (.string "a.b\nc(d)") := rfl
  obtain ⟨a, b, like, -, decides, -, more, patterns, strings⟩ :=
    patterns_decide "t".toList "a.*c(_)%".toList held
  have cuts : Pattern.Cuts (CodePoint.char · = ·) "a.*c(_)%".toList (Codes.ofString "a.b\nc(d)") :=
    ⟨[['a'], ['.'], ['b', '\n'], ['c'], ['('], ['d'], [')'], []], by simp [Pattern.StandsFor], rfl⟩
  obtain rfl : a = true := decides.mpr ⟨by simp, cuts⟩
  obtain rfl : b = true := more rfl
  refine ⟨held, like, patterns _ ?_, strings _ "A.b\nC(D)" _ rfl ?_ rfl⟩
  · simp [Text.SameAscii]
  · exact CodePoint.forall₂_sameAscii (by simp [Text.SameAscii])

end Filter

end TableServer
