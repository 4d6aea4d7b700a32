import Mathlib.Algebra.Group.Nat.Defs
import TableServer.Number.Reader

/-! Decimal numerals of natural numbers, which are read back as these numbers up to the limit of
digits. -/
namespace TableServer

def numeral (n : Nat) : List Char :=
  (toString n).toList

theorem numeral_eq (n : Nat) : numeral n = Nat.toDigits 10 n :=
  Nat.toList_repr

theorem numeral_ne_nil (n : Nat) : numeral n ≠ [] := by
  rw [numeral_eq]
  exact Nat.toDigits_ne_nil

def IsFigure (c : Char) : Prop :=
  48 ≤ c.toNat ∧ c.toNat ≤ 57

theorem isFigure_of_mem_numeral {n : Nat} {c : Char} (h : c ∈ numeral n) : IsFigure c := by
  rw [numeral_eq] at h
  have digit := Nat.isDigit_of_mem_toDigits (by decide) (by decide) h
  simp only [Char.isDigit, Bool.and_eq_true, decide_eq_true_eq, UInt32.le_iff_toNat_le] at digit
  exact digit

theorem length_numeral_le {n k : Nat} (positive : 0 < k) (h : n < 10 ^ k) :
    (numeral n).length ≤ k := by
  rw [numeral_eq]
  exact (Nat.length_toDigits_le_iff (by decide) positive).mpr h

namespace IsFigure

variable {c : Char}

theorem decimalValue? (h : IsFigure c) : Text.decimalValue? c = some (c.toNat - 48) := by
  obtain ⟨low, high⟩ := h
  have place : Text.decimalRuns.place? c = some (c.toNat - 48) := by
    rw [Text.Runs.place?, Text.decimalRuns, Text.Runs.placeOf?, if_neg (by omega), if_pos high]
  rw [Text.decimalValue?, place, Option.map_some, Nat.mod_eq_of_lt (by omega)]

theorem isDecimal (h : IsFigure c) : Text.isDecimal c = true := by
  obtain ⟨low, high⟩ := h
  rw [Text.isDecimal, Text.Runs.holds, Text.Runs.place?, Text.decimalRuns, Text.Runs.placeOf?,
    if_neg (by omega), if_pos high]
  rfl

theorem not_isBlank (h : IsFigure c) : Text.isBlank c = false := by
  obtain ⟨low, high⟩ := h
  rw [Text.isBlank, Text.Runs.holds, Text.Runs.place?, Text.blankRuns]
  simp only [Text.Runs.placeOf?]
  rw [if_neg (by omega), if_neg (by omega), if_neg (by omega), if_neg (by omega), if_pos (by omega)]
  rfl

theorem ne_of_toNat_lt {d : Char} (h : IsFigure c) (hd : d.toNat < 48) : c ≠ d := by
  rintro rfl
  exact absurd h.1 (by omega)

end IsFigure

namespace Text

theorem trimWhere_of_none {p : Char → Bool} {text : List Char} (h : ∀ c ∈ text, p c = false) :
    trimWhere p text = text := by
  have kept : ∀ cs : List Char, (∀ c ∈ cs, p c = false) → cs.dropWhile p = cs := by
    intro cs hc
    cases cs with
    | nil => rfl
    | cons c rest => simp [hc c (by simp)]
  rw [trimWhere, kept text h, kept _ fun c hc => h c (List.mem_reverse.mp hc), List.reverse_reverse]

end Text

namespace Number

theorem scanDigits_of_figures {text : List Char} (h : ∀ c ∈ text, IsFigure c) {due : Bool}
    (filled : due = true → text ≠ []) :
    scanDigits due text = some (text.map fun c => c.toNat - 48, []) := by
  induction text generalizing due with
  | nil =>
      cases due with
      | false => rfl
      | true => exact absurd rfl (filled rfl)
  | cons c rest ih =>
      have tail : scanDigits false rest = some (rest.map fun c => c.toNat - 48, []) :=
        ih (fun d hd => h d (by simp [hd])) (by simp)
      simp only [scanDigits, (h c (by simp)).decimalValue?, tail, Option.map_some, List.map_cons]

theorem splitSign_of_figure {c : Char} (h : IsFigure c) (rest : List Char) :
    splitSign (c :: rest) = (false, c :: rest) := by
  have minus : c ≠ '-' := h.ne_of_toNat_lt (by decide)
  have plus : c ≠ '+' := h.ne_of_toNat_lt (by decide)
  unfold splitSign
  split
  · rename_i he
    exact absurd (List.cons.inj he).1 minus
  · rename_i he
    exact absurd (List.cons.inj he).1 plus
  · rfl

theorem ofDigits_numeral (n : Nat) : ofDigits ((numeral n).map fun c => c.toNat - 48) = n := by
  rw [ofDigits, List.foldl_map, numeral_eq]
  exact Nat.ofDigitChars_toDigits (by decide) (by decide)

theorem readInteger_numeral {n : Nat} (h : n < 10 ^ digitLimit) :
    readInteger (numeral n) = .ok (n : Int) := by
  have figures : ∀ c ∈ numeral n, IsFigure c := fun c hc => isFigure_of_mem_numeral hc
  have trimmed : Text.trimWhere isBlankAround (numeral n) = numeral n := by
    refine Text.trimWhere_of_none fun c hc => ?_
    rw [isBlankAround, (figures c hc).not_isBlank, Bool.false_and]
  have unsigned : splitSign (numeral n) = (false, numeral n) := by
    obtain ⟨c, rest, hc⟩ := List.exists_cons_of_ne_nil (numeral_ne_nil n)
    rw [hc]
    exact splitSign_of_figure (figures c (by simp [hc])) rest
  have short := length_numeral_le (by decide) h
  simp only [readInteger, trimmed, unsigned,
    scanDigits_of_figures figures fun _ => numeral_ne_nil n, List.length_map, ofDigits_numeral]
  rw [if_neg (by omega)]
  rfl

end Number

end TableServer
