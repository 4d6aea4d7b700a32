import TableServer.Grammar.Literal
import TableServer.Text.Parts
import Mathlib.Data.List.Infix
import Mathlib.Data.List.TakeWhile

/-! Parts of texts. A text without the mark is one part, and the first mark ends the first part.
Whatever trimming, cutting and splitting give of a text is a run of its characters. -/
namespace TableServer

namespace Text

theorem trimWhere_infix (p : Char → Bool) (text : List Char) : trimWhere p text <:+: text := by
  have inner : trimWhere p text <+: text.dropWhile p := by
    have ended := List.reverse_prefix.mpr
      (List.dropWhile_suffix p (l := (text.dropWhile p).reverse))
    rwa [List.reverse_reverse] at ended
  exact inner.isInfix.trans (List.dropWhile_suffix p).isInfix

theorem trim_infix (text : List Char) : trim text <:+: text :=
  trimWhere_infix isBlank text

structure Trimmed (text : List Char) : Prop where
  start : ∀ c ∈ text.head?, isBlank c = false
  finish : ∀ c ∈ text.getLast?, isBlank c = false

namespace Trimmed

variable {text other : List Char}

theorem trim_eq (h : Trimmed text) : trim text = text := by
  have started : text.dropWhile isBlank = text := by
    cases text with
    | nil => rfl
    | cons c rest => rw [List.dropWhile_cons_of_neg (by simp [h.start c rfl])]
  have finished : text.reverse.dropWhile isBlank = text.reverse := by
    cases hr : text.reverse with
    | nil => rfl
    | cons c rest =>
        have last : text.getLast? = some c := by rw [← List.head?_reverse, hr, List.head?_cons]
        rw [List.dropWhile_cons_of_neg (by simp [h.finish c last])]
  rw [trim, trimWhere, started, finished, List.reverse_reverse]

theorem of_no_blank (h : ∀ c ∈ text, isBlank c = false) : Trimmed text :=
  ⟨fun c hc => h c (List.mem_of_mem_head? hc), fun c hc => h c (List.mem_of_mem_getLast? hc)⟩

theorem of_all (h : text.all (!isBlank ·) = true) : Trimmed text :=
  of_no_blank fun c hc => by simpa using List.all_eq_true.mp h c hc

theorem append (h : Trimmed text) (ho : Trimmed other) : Trimmed (text ++ other) := by
  constructor
  · intro c hc
    rw [List.head?_append, Option.mem_def, Option.or_eq_some_iff] at hc
    exact hc.elim (h.start c) fun behind => ho.start c behind.2
  · intro c hc
    rw [List.getLast?_append, Option.mem_def, Option.or_eq_some_iff] at hc
    exact hc.elim (ho.finish c) fun before => h.finish c before.2

theorem of_ends {first last : Char} (hf : isBlank first = false) (hl : isBlank last = false)
    (middle : List Char) : Trimmed (first :: (middle ++ [last])) := by
  refine ⟨fun c hc => ?_, fun c hc => ?_⟩
  · obtain rfl : first = c := by simpa using hc
    exact hf
  · rw [← List.cons_append, List.getLast?_concat] at hc
    exact Option.some.inj hc ▸ hl

end Trimmed

theorem trim_of_ends {first last : Char} (hf : isBlank first = false) (hl : isBlank last = false)
    (middle : List Char) : trim (first :: (middle ++ [last])) = first :: (middle ++ [last]) :=
  (Trimmed.of_ends hf hl middle).trim_eq

theorem trim_cons_ne_nil {c : Char} (shown : isBlank c = false) (rest : List Char) :
    trim (c :: rest) ≠ [] := by
  intro empty
  rw [trim, trimWhere, List.dropWhile_cons_of_neg (by simp [shown]), List.reverse_eq_nil_iff,
    List.dropWhile_eq_nil_iff] at empty
  exact absurd (empty c (by simp)) (by simp [shown])

theorem isBlank_of_trim {text : List Char} (h : trim text = []) :
    ∀ c ∈ text, isBlank c = true := by
  rw [trim, trimWhere, List.reverse_eq_nil_iff, List.dropWhile_eq_nil_iff] at h
  refine List.dropWhile_eq_nil_iff.mp ?_
  cases hd : text.dropWhile isBlank with
  | nil => rfl
  | cons c rest =>
      have shown := List.head?_dropWhile_not isBlank text
      rw [hd] at shown h
      have blank : isBlank c = true := h c (by simp)
      cases blank.symm.trans (by simpa using shown)

theorem trim_padded {before after : List Char} (hb : ∀ c ∈ before, isBlank c = true)
    (ha : ∀ c ∈ after, isBlank c = true) (text : List Char) :
    trim (before ++ (text ++ after)) = trim text := by
  rw [trim, trim, trimWhere, trimWhere, List.dropWhile_append_of_pos hb, List.dropWhile_append]
  split
  · rename_i blank
    rw [List.isEmpty_iff.mp blank, List.dropWhile_eq_nil_iff.mpr ha]
  · rw [List.reverse_append, List.dropWhile_append_of_pos (by simpa using ha)]

theorem cut?_eq_none {mark : Char} {text : List Char} (h : mark ∉ text) :
    cut? mark text = none := by
  induction text with
  | nil => rfl
  | cons c rest ih =>
      have hc : c ≠ mark := fun he => h (by simp [he])
      have tail : mark ∉ rest := fun hm => h (by simp [hm])
      simp [cut?, hc, ih tail]

theorem cut?_append {mark : Char} {front : List Char} (h : mark ∉ front) (rest : List Char) :
    cut? mark (front ++ mark :: rest) = some (front, rest) := by
  induction front with
  | nil => simp [cut?]
  | cons c front ih =>
      have hc : c ≠ mark := fun he => h (by simp [he])
      have tail : mark ∉ front := fun hm => h (by simp [hm])
      simp [cut?, hc, ih tail]

theorem cut?_isSome {mark : Char} {text : List Char} (h : mark ∈ text) :
    (cut? mark text).isSome = true := by
  obtain ⟨front, rest, rfl, before⟩ := List.eq_append_cons_of_mem h
  rw [cut?_append before]
  rfl

theorem cut?_eq {mark : Char} {text front back : List Char}
    (h : cut? mark text = some (front, back)) : text = front ++ mark :: back := by
  induction text generalizing front with
  | nil => cases h
  | cons c rest ih =>
      unfold cut? at h
      split at h
      · rename_i here
        cases h
        rw [here]
        rfl
      · obtain ⟨⟨inner, tail⟩, hp, he⟩ := Option.map_eq_some_iff.mp h
        cases he
        rw [ih hp]
        rfl

theorem infix_of_cut? {mark : Char} {text front back : List Char}
    (h : cut? mark text = some (front, back)) : front <:+: text ∧ back <:+: text := by
  rw [cut?_eq h]
  exact ⟨(List.prefix_append _ _).isInfix,
    ((List.suffix_cons mark back).trans (List.suffix_append _ _)).isInfix⟩

theorem splitOn_append {mark : Char} {front : List Char} (h : mark ∉ front)
    (rest : List Char) : splitOn mark (front ++ mark :: rest) = front :: splitOn mark rest := by
  induction front with
  | nil => simp [splitOn]
  | cons c front ih =>
      have hc : c ≠ mark := fun he => h (by simp [he])
      have tail := ih fun hm => h (by simp [hm])
      simp [splitOn, hc, tail]

theorem splitOn_of_not_mem {mark : Char} {text : List Char} (h : mark ∉ text) :
    splitOn mark text = [text] := by
  induction text with
  | nil => rfl
  | cons c rest ih =>
      have hc : c ≠ mark := fun he => h (by simp [he])
      have tail := ih fun hm => h (by simp [hm])
      simp [splitOn, hc, tail]

/-- Parts of which the first starts a text and the others stand somewhere in it. -/
def StandIn (text : List Char) : List (List Char) → Prop
  | [] => False
  | first :: others => first <+: text ∧ ∀ part ∈ others, part <:+: text

namespace StandIn

variable {c : Char} {text first : List Char} {others parts : List (List Char)}

theorem isInfix (h : StandIn text parts) {part : List Char} (hp : part ∈ parts) :
    part <:+: text := by
  cases parts with
  | nil => cases hp
  | cons first others =>
      rcases List.mem_cons.mp hp with rfl | hm
      · exact h.1.isInfix
      · exact h.2 part hm

theorem cut (h : StandIn text parts) : StandIn (c :: text) ([] :: parts) :=
  ⟨List.nil_prefix, fun _ hp => (h.isInfix hp).trans (List.suffix_cons c text).isInfix⟩

theorem prolong (h : StandIn text (first :: others)) :
    StandIn (c :: text) ((c :: first) :: others) :=
  ⟨(List.prefix_cons_inj c).mpr h.1,
    fun part hp => (h.2 part hp).trans (List.suffix_cons c text).isInfix⟩

end StandIn

theorem splitOn_standIn (mark : Char) (text : List Char) : StandIn text (splitOn mark text) := by
  induction text with
  | nil => exact ⟨List.prefix_refl _, by simp⟩
  | cons c rest ih =>
      unfold splitOn
      split
      · exact ih.cut
      · split
        · rename_i empty
          rw [empty] at ih
          exact ih.elim
        · rename_i parts
          rw [parts] at ih
          exact ih.prolong

theorem beforeMark_of_not_mem {m : Char} (mark : List Char) {text : List Char} (h : m ∉ text) :
    beforeMark (m :: mark) text = text := by
  induction text with
  | nil => rfl
  | cons c rest ih =>
      have hc : m ≠ c := fun he => h (by simp [he])
      have tail := ih fun hm => h (by simp [hm])
      simp [beforeMark, hc, tail]

theorem beforeMark_append {m : Char} (mark : List Char) {front : List Char} (h : m ∉ front)
    (rest : List Char) : beforeMark (m :: mark) (front ++ (m :: (mark ++ rest))) = front := by
  induction front with
  | nil => simp [beforeMark]
  | cons c front ih =>
      have hc : m ≠ c := fun he => h (by simp [he])
      have tail := ih fun hm => h (by simp [hm])
      simp [beforeMark, hc, tail]

theorem beforeMark_prefix (mark text : List Char) : beforeMark mark text <+: text := by
  induction text with
  | nil => exact List.prefix_refl _
  | cons c rest ih =>
      unfold beforeMark
      split
      · exact List.nil_prefix
      · exact (List.prefix_cons_inj c).mpr ih

theorem dropStart?_eq_some_iff {start text rest : List Char} :
    dropStart? start text = some rest ↔ text = start ++ rest := by
  induction start generalizing text with
  | nil => simp [dropStart?, eq_comm]
  | cons c start ih =>
      cases text with
      | nil => simp [dropStart?]
      | cons d text =>
          by_cases hc : c = d
          · simp [dropStart?, hc, ih]
          · simp [dropStart?, hc, Ne.symm hc]

theorem suffix_of_dropStart? {start text rest : List Char}
    (h : dropStart? start text = some rest) : rest <:+ text :=
  ⟨start, (dropStart?_eq_some_iff.mp h).symm⟩

end Text

namespace Grammar

theorem split?_standIn {separator : Char} {s : Scan} {text : List Char}
    {parts : List (List Char)} (h : split? separator s text = some parts) :
    Text.StandIn text parts := by
  induction text generalizing s parts with
  | nil =>
      unfold split? at h
      split at h
      · cases h
        exact ⟨List.prefix_refl _, by simp⟩
      · cases h
  | cons c rest ih =>
      unfold split? at h
      split at h
      · obtain ⟨inner, hi, rfl⟩ := Option.map_eq_some_iff.mp h
        exact (ih hi).cut
      · obtain ⟨inner, hi, rfl⟩ := Option.map_eq_some_iff.mp h
        cases inner with
        | nil => exact (ih hi).elim
        | cons first others => exact (ih hi).prolong

theorem inside?_append (opener closer : Char) (body : List Char) :
    inside? opener closer (opener :: (body ++ [closer])) = some body := by
  simp [inside?]

theorem unwrap_wrapped (opener closer : Char) (what : String) (body : List Char) :
    unwrap opener closer what (opener :: (body ++ [closer])) = .ok body := by
  rw [unwrap, inside?_append]

theorem infix_of_inside? {opener closer : Char} {text body : List Char}
    (h : inside? opener closer text = some body) : body <:+: text := by
  unfold inside? at h
  split at h
  · rename_i c rest
    split at h
    · cases h
      exact (List.dropLast_prefix rest).isInfix.trans (List.suffix_cons c rest).isInfix
    · cases h
  · cases h

end Grammar

end TableServer
