import TableServer.Grammar.TopLevel

/-! Neutral texts, whose quotes and brackets are closed. A scan that enters such a text outside of
quotes leaves it as it entered, and cuts nothing of it. -/
namespace TableServer.Grammar

def closers : List Char :=
  [')', '\x7d', ']']

/-- The inside of quotes. A backslash protects the character behind it. -/
inductive Protected : List Char → Prop where
  | nil : Protected []
  | plain {c : Char} {rest : List Char} : c ≠ '"' → c ≠ '\\' → Protected rest →
      Protected (c :: rest)
  | escape (c : Char) {rest : List Char} : Protected rest → Protected ('\\' :: c :: rest)

theorem Protected.prepend {front rest : List Char} (plain : ∀ c ∈ front, c ≠ '"' ∧ c ≠ '\\')
    (h : Protected rest) : Protected (front ++ rest) := by
  induction front with
  | nil => exact h
  | cons c front ih =>
      obtain ⟨⟨quote, backslash⟩, others⟩ := List.forall_mem_cons.mp plain
      exact .plain quote backslash (ih others)

/-- Texts in which quotes are closed and brackets are nested and closed. Commas stand within
brackets and quotes, and elsewhere where `commas` admits them. -/
inductive Neutral : (commas : Bool) → List Char → Prop where
  | nil {commas : Bool} : Neutral commas []
  | plain {commas : Bool} {c : Char} {rest : List Char} : c ≠ '"' → closerOf? c = none →
      c ∉ closers → (c = ',' → commas = true) → Neutral commas rest → Neutral commas (c :: rest)
  | quoted {commas : Bool} {inner rest : List Char} : Protected inner → Neutral commas rest →
      Neutral commas ('"' :: (inner ++ '"' :: rest))
  | bracketed {commas : Bool} {opener closer : Char} {inner rest : List Char} :
      closerOf? opener = some closer → Neutral true inner → Neutral commas rest →
      Neutral commas (opener :: (inner ++ closer :: rest))

namespace Neutral

theorem inside {commas : Bool} {text : List Char} (h : Neutral commas text) :
    Neutral true text := by
  induction h with
  | nil => exact nil
  | plain quote opener closer _ _ ih => exact plain quote opener closer (fun _ => rfl) ih
  | quoted inner _ ih => exact quoted inner ih
  | bracketed pair inner _ _ ih => exact bracketed pair inner ih

theorem append {commas : Bool} {text other : List Char} (h : Neutral commas text)
    (ho : Neutral commas other) : Neutral commas (text ++ other) := by
  induction h with
  | nil => exact ho
  | plain quote opener closer comma _ ih => exact plain quote opener closer comma (ih ho)
  | quoted inner _ ih =>
      rw [List.cons_append, List.append_assoc]
      exact quoted inner (ih ho)
  | bracketed pair inner _ _ ih =>
      rw [List.cons_append, List.append_assoc]
      exact bracketed pair inner (ih ho)

theorem comma {text : List Char} (h : Neutral true text) : Neutral true (',' :: text) :=
  plain (by decide) (by decide) (by decide) (fun _ => rfl) h

def isPlain (c : Char) : Bool :=
  c ≠ '"' && c ≠ ',' && closerOf? c = none && !closers.contains c

theorem isPlain_of {p : Char → Bool} {c : Char} (h : p c = true)
    (apart : ['"', ',', '(', '\x7b', '[', ')', '\x7d', ']'].any p = false) :
    isPlain c = true := by
  have other : ∀ mark ∈ ['"', ',', '(', '\x7b', '[', ')', '\x7d', ']'], c ≠ mark := by
    rintro mark hm rfl
    exact List.any_eq_false.mp apart c hm h
  simp only [List.forall_mem_cons] at other
  simp [isPlain, closerOf?, closers, other]

theorem of_plain {commas : Bool} {text : List Char} (h : text.all isPlain = true) :
    Neutral commas text := by
  induction text with
  | nil => exact nil
  | cons c rest ih =>
      simp only [List.all_cons, Bool.and_eq_true] at h
      obtain ⟨head, tail⟩ := h
      simp only [isPlain, Bool.and_eq_true, decide_eq_true_eq, Bool.not_eq_true',
        List.contains_eq_mem, decide_eq_false_iff_not] at head
      obtain ⟨⟨⟨quote, comma⟩, opener⟩, closer⟩ := head
      exact plain quote opener closer (fun hc => absurd hc comma) (ih tail)

theorem of_blank {commas : Bool} {text : List Char} (h : ∀ c ∈ text, Text.isBlank c = true) :
    Neutral commas text :=
  of_plain (List.all_eq_true.mpr fun c hc => isPlain_of (h c hc) (by decide))

end Neutral

/-- The scan outside of quotes to which some closing brackets are due. -/
def Scan.within (due : List Char) : Scan :=
  ⟨due, false, false⟩

theorem closer_of_pair {opener closer : Char} (h : closerOf? opener = some closer) :
    opener ≠ '"' ∧ opener ≠ '\\' ∧ closer ∈ closers ∧ closer ≠ '"' ∧ closerOf? closer = none := by
  unfold closerOf? at h
  split at h
  · rename_i he
    cases h
    cases he
    decide
  · split at h
    · rename_i he
      cases h
      cases he
      decide
    · split at h
      · rename_i he
        cases h
        cases he
        decide
      · cases h

def Moves (separator : Char) (s : Scan) (text : List Char) (t : Scan) : Prop :=
  ∀ rest, split? separator s (text ++ rest) =
    (split? separator t rest).map fun parts => text.foldr consFirst parts

namespace Moves

variable {separator : Char} {s t u : Scan} {text other : List Char}

theorem nil : Moves separator s [] s := by
  intro rest
  exact Option.map_id'.symm

theorem append (h : Moves separator s text t) (ho : Moves separator t other u) :
    Moves separator s (text ++ other) u := by
  intro rest
  rw [List.append_assoc, h, ho, Option.map_map]
  simp only [List.foldr_append, Function.comp_def]

theorem cons {c : Char} (uncut : s.cuts separator c = false)
    (h : Moves separator (s.next c) other u) : Moves separator s (c :: other) u := by
  intro rest
  rw [List.cons_append, split?, uncut, h, Option.map_map]
  rfl

theorem of_protected {due : List Char} (h : Protected text) :
    Moves separator ⟨due, true, false⟩ text ⟨due, true, false⟩ := by
  induction h with
  | nil => exact nil
  | plain quote backslash _ ih =>
      refine cons rfl ?_
      rwa [Scan.next, if_neg (by simp), if_neg (by simp [backslash]), if_neg quote, if_pos rfl]
  | escape c _ ih => exact cons rfl (cons rfl ih)

theorem of_neutral {commas : Bool} {due : List Char} (h : Neutral commas text)
    (brackets : ∀ c ∈ due, c ∈ closers) (inside : commas = true → due ≠ []) :
    Moves ',' (.within due) text (.within due) := by
  induction h generalizing due with
  | nil => exact nil
  | @plain commas c rest quote opener closer comma _ ih =>
      -- Only closing brackets are due, and a plain character is none.
      have not_due : due.head? ≠ some c := by
        intro hc
        exact closer (brackets c (List.mem_of_mem_head? hc))
      have same : (Scan.within due).next c = .within due := by
        simp [Scan.within, Scan.next, quote, opener, not_due]
      refine cons ?_ (same.symm ▸ ih brackets inside)
      by_cases hc : c = ','
      · have depth := inside (comma hc)
        simp [Scan.within, Scan.cuts, Scan.settled, depth]
      · simp [Scan.cuts, hc]
  | quoted hidden _ ih =>
      refine cons (by simp [Scan.cuts]) (append (of_protected hidden) (cons rfl ?_))
      exact ih brackets inside
  | @bracketed commas opener closer inner rest pair _ _ ih_inner ih =>
      obtain ⟨quote, backslash, due_closer, closer_quote, no_opener⟩ := closer_of_pair pair
      have opened : (Scan.within due).next opener = .within (closer :: due) := by
        simp [Scan.within, Scan.next, quote, pair]
      have closed : (Scan.within (closer :: due)).next closer = .within due := by
        simp [Scan.within, Scan.next, closer_quote, no_opener]
      have deeper : ∀ c ∈ closer :: due, c ∈ closers := by
        intro c hc
        rcases List.mem_cons.mp hc with rfl | hc
        · exact due_closer
        · exact brackets c hc
      refine cons (by simp [Scan.cuts, pair]) ?_
      rw [opened]
      -- Inside of the bracket a comma is no cut, since its closer is due.
      refine append (ih_inner deeper fun _ => List.cons_ne_nil closer due) (cons ?_ ?_)
      · simp [Scan.within, Scan.cuts, Scan.settled]
      · rw [closed]
        exact ih brackets inside

end Moves

theorem foldr_consFirst (text part : List Char) (parts : List (List Char)) :
    text.foldr consFirst (part :: parts) = (text ++ part) :: parts := by
  induction text with
  | nil => rfl
  | cons c rest ih => rw [List.foldr_cons, ih, consFirst, List.cons_append]

namespace Moves

variable {separator : Char} {text : List Char}

theorem split?_self (h : Moves separator .start text .start) :
    split? separator .start text = some [text] := by
  have moved := h []
  rwa [List.append_nil, split?, if_pos (by decide), Option.map_some, foldr_consFirst,
    List.append_nil] at moved

theorem split?_cut (h : Moves separator .start text .start)
    (cut : Scan.start.cuts separator separator = true) (rest : List Char) :
    split? separator .start (text ++ separator :: rest) =
      (split? separator .start rest).map (text :: ·) := by
  rw [h, split?, if_pos cut, Option.map_map]
  congr 1
  funext parts
  rw [Function.comp_apply, foldr_consFirst, List.append_nil]

end Moves

theorem split?_intercalate {separator : Char} (cut : Scan.start.cuts separator separator = true)
    {first : List Char} {rest : List (List Char)}
    (h : ∀ text ∈ first :: rest, Moves separator .start text .start) :
    split? separator .start (List.intercalate [separator] (first :: rest)) =
      some (first :: rest) := by
  have passed := h first (by simp)
  induction rest generalizing first with
  | nil => rw [List.intercalate_singleton, passed.split?_self]
  | cons next rest ih =>
      have behind : ∀ text ∈ next :: rest, Moves separator .start text .start :=
        fun text ht => h text (List.mem_cons_of_mem first ht)
      rw [List.intercalate_cons_cons, List.append_assoc, List.singleton_append,
        passed.split?_cut cut, ih behind (behind next (by simp)), Option.map_some]

theorem splitTopLevel_intercalate {first : List Char} {rest : List (List Char)}
    (h : ∀ text ∈ first :: rest, Neutral false text) :
    splitTopLevel ',' (List.intercalate [','] (first :: rest)) = .ok (first :: rest) := by
  have passed : ∀ text ∈ first :: rest, Moves ',' .start text .start :=
    fun text ht => Moves.of_neutral (h text ht) (by simp) (by simp)
  rw [splitTopLevel, split?_intercalate (by decide) passed]

theorem Neutral.intercalate {texts : List (List Char)} (h : ∀ text ∈ texts, Neutral true text) :
    Neutral true (List.intercalate [','] texts) := by
  induction texts with
  | nil => exact nil
  | cons text rest ih =>
      have head := h text (by simp)
      have tail := ih fun other ho => h other (List.mem_cons_of_mem text ho)
      cases rest with
      | nil => simpa using head
      | cons next rest =>
          rw [List.intercalate_cons_cons, List.append_assoc]
          exact head.append tail.comma

end TableServer.Grammar
