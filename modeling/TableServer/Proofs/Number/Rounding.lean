import Mathlib.Algebra.Order.Field.Power
import Mathlib.Data.Nat.Log
import Mathlib.Data.Rat.Cast.Order
import Mathlib.Order.WithBot
import Mathlib.Tactic.FieldSimp
import Mathlib.Tactic.Linarith
import Mathlib.Tactic.NormNum
import Mathlib.Tactic.Positivity
import Mathlib.Tactic.Ring
import TableServer.Number.Basic

/-! Rounding to doubles. A rounded quotient keeps the order of the quotients, and stands at most
half a unit of its last place away from its quotient. Doubles are compared by their places among
the rational numbers and the two infinities. -/
namespace TableServer

namespace Magnitude

/-- The place of a magnitude among the rational numbers and the two infinities. -/
def place : Magnitude → WithBot (WithTop ℚ)
  | undefined => ⊥
  | bottom => ⊥
  | exact q => ((q : WithTop ℚ) : WithBot (WithTop ℚ))
  | top => ((⊤ : WithTop ℚ) : WithBot (WithTop ℚ))

theorem lt_eq_place {a b : Magnitude} (ha : a ≠ undefined) (hb : b ≠ undefined) :
    a.lt b = decide (a.place < b.place) := by
  cases a <;> cases b <;> simp_all [lt, place, WithBot.coe_lt_coe, WithBot.bot_lt_coe]
  rename_i q
  exact decide_eq_true (WithBot.coe_lt_coe.mpr (WithTop.coe_lt_top q))

end Magnitude

namespace Double

/-- A natural number nearest to a rational one, the even number where two are equally near. -/
structure Rounds (m : ℕ) (y : ℚ) : Prop where
  lower : 2 * (m : ℚ) ≤ 2 * y + 1
  upper : 2 * y ≤ 2 * (m : ℚ) + 1
  even : 2 * (m : ℚ) = 2 * y + 1 ∨ 2 * y = 2 * (m : ℚ) + 1 → m % 2 = 0

namespace Rounds

variable {m n : ℕ} {x y : ℚ}

theorem natCast (n : ℕ) : Rounds n (n : ℚ) := by
  refine ⟨by linarith, by linarith, ?_⟩
  rintro (h | h) <;> linarith

theorem mono (hm : Rounds m x) (hn : Rounds n y) (le : x ≤ y) : m ≤ n := by
  by_contra above
  have next : (n : ℚ) + 1 ≤ m := by exact_mod_cast Nat.lt_of_not_le above
  have lower := hm.lower
  have upper := hn.upper
  -- Both quotients are the half between two neighbours, of which only one is even.
  have even := hm.even (.inl (by linarith))
  have even' := hn.even (.inr (by linarith))
  have neighbours : m = n + 1 := by
    have : (m : ℚ) = n + 1 := by linarith
    exact_mod_cast this
  omega

theorem le_of_le_natCast (h : Rounds m y) (le : y ≤ n) : m ≤ n :=
  h.mono (natCast n) le

theorem le_of_natCast_le (h : Rounds m y) (le : (n : ℚ) ≤ y) : n ≤ m :=
  mono (natCast n) h le

end Rounds

theorem roundQuotient_near (num : ℕ) {den : ℕ} (positive : 0 < den) :
    2 * (roundQuotient num den * den) ≤ 2 * num + den ∧
      2 * num ≤ 2 * (roundQuotient num den * den) + den ∧
      (2 * (roundQuotient num den * den) = 2 * num + den ∨
        2 * num = 2 * (roundQuotient num den * den) + den → roundQuotient num den % 2 = 0) := by
  have parts := Nat.div_add_mod' num den
  have rest := Nat.mod_lt num positive
  unfold roundQuotient
  simp only
  generalize num / den = q at *
  generalize num % den = r at *
  split
  · omega
  · split
    · rw [Nat.add_mul, Nat.one_mul]
      omega
    · rcases Nat.mod_two_eq_zero_or_one q with even | odd
      · rw [even, Nat.add_zero]
        omega
      · rw [odd, Nat.add_mul, Nat.one_mul]
        omega

theorem rounds_roundQuotient (num : ℕ) {den : ℕ} (positive : 0 < den) :
    Rounds (roundQuotient num den) ((num : ℚ) / den) := by
  obtain ⟨lower, upper, even⟩ := roundQuotient_near num positive
  have size : (0 : ℚ) < den := by exact_mod_cast positive
  have times : (num : ℚ) / den * den = num := div_mul_cancel₀ _ size.ne'
  generalize (num : ℚ) / den = y at *
  generalize roundQuotient num den = m at *
  have lower' : 2 * ((m : ℚ) * den) ≤ 2 * num + den := by exact_mod_cast lower
  have upper' : 2 * (num : ℚ) ≤ 2 * ((m : ℚ) * den) + den := by exact_mod_cast upper
  refine ⟨?_, ?_, ?_⟩
  · refine le_of_mul_le_mul_right ?_ size
    linarith
  · refine le_of_mul_le_mul_right ?_ size
    linarith
  · rintro (h | h)
    · refine even (.inl ?_)
      have tie := congrArg (· * (den : ℚ)) h
      have : 2 * ((m : ℚ) * den) = 2 * num + den := by linarith
      exact_mod_cast this
    · refine even (.inr ?_)
      have tie := congrArg (· * (den : ℚ)) h
      have : 2 * (num : ℚ) = 2 * ((m : ℚ) * den) + den := by linarith
      exact_mod_cast this

theorem zpow_of_nonneg {e : ℤ} (h : 0 ≤ e) : (2 : ℚ) ^ e = 2 ^ e.toNat := by
  rw [← zpow_natCast, Int.toNat_of_nonneg h]

theorem zpow_of_neg {e : ℤ} (h : ¬0 ≤ e) : (2 : ℚ) ^ e = (2 ^ (-e).toNat)⁻¹ := by
  rw [← zpow_of_nonneg (show 0 ≤ -e by omega), zpow_neg, inv_inv]

def valueOf (m : ℕ) (e : ℤ) : ℚ :=
  m * 2 ^ e

theorem valueOf_nonneg (m : ℕ) (e : ℤ) : 0 ≤ valueOf m e := by
  unfold valueOf
  positivity

theorem ratio_eq (negative : Bool) (m : ℕ) (e : ℤ) :
    ratio negative m e = if negative then -valueOf m e else valueOf m e := by
  unfold ratio valueOf
  simp only [Nat.pow_eq]
  by_cases h : 0 ≤ e
  · rw [if_pos h, zpow_of_nonneg h]
    push_cast
    rfl
  · rw [if_neg h, zpow_of_neg h, Rat.mkRat_eq_div, ← div_eq_mul_inv]
    push_cast
    rfl

theorem quotient_near_log2 {num den : ℕ} (some_num : num ≠ 0) (some_den : den ≠ 0) :
    (2 : ℚ) ^ ((num.log2 : ℤ) - den.log2 - 1) ≤ (num : ℚ) / den ∧
      (num : ℚ) / den < 2 ^ ((num.log2 : ℤ) - den.log2 + 1) := by
  have size : (0 : ℚ) < den := by exact_mod_cast Nat.pos_of_ne_zero some_den
  have num_low : (2 : ℚ) ^ (num.log2 : ℤ) ≤ num := by exact_mod_cast Nat.log2_self_le some_num
  have num_high : (num : ℚ) < 2 ^ ((num.log2 : ℤ) + 1) := by
    have : num < 2 ^ (num.log2 + 1) := Nat.lt_log2_self
    exact_mod_cast this
  have den_low : (2 : ℚ) ^ (den.log2 : ℤ) ≤ den := by exact_mod_cast Nat.log2_self_le some_den
  have den_high : (den : ℚ) < 2 ^ ((den.log2 : ℤ) + 1) := by
    have : den < 2 ^ (den.log2 + 1) := Nat.lt_log2_self
    exact_mod_cast this
  generalize (num.log2 : ℤ) = a at *
  generalize (den.log2 : ℤ) = b at *
  have shift (a b : ℤ) : (2 : ℚ) ^ (a - b) * 2 ^ b = 2 ^ a := by
    rw [← zpow_add₀ (by norm_num), sub_add_cancel]
  constructor
  · rw [le_div_iff₀ size]
    calc
      (2 : ℚ) ^ (a - b - 1) * den ≤ 2 ^ (a - b - 1) * 2 ^ (b + 1) :=
        mul_le_mul_of_nonneg_left den_high.le (by positivity)
      _ = 2 ^ a := by rw [← shift a (b + 1), sub_sub]
      _ ≤ num := num_low
  · rw [div_lt_iff₀ size]
    calc
      (num : ℚ) < 2 ^ (a + 1) := num_high
      _ = 2 ^ (a - b + 1) * 2 ^ b := by rw [← shift (a + 1) b, add_sub_right_comm]
      _ ≤ 2 ^ (a - b + 1) * den := mul_le_mul_of_nonneg_left den_low (by positivity)

theorem two_pow_le_quotient_iff {num den : ℕ} (some_den : den ≠ 0) (k : ℤ) :
    (if 0 ≤ k then decide (den * 2 ^ k.toNat ≤ num) else decide (den ≤ num * 2 ^ (-k).toNat)) =
      true ↔ (2 : ℚ) ^ k ≤ num / den := by
  have size : (0 : ℚ) < den := by exact_mod_cast Nat.pos_of_ne_zero some_den
  rw [le_div_iff₀ size]
  by_cases h : 0 ≤ k
  · rw [if_pos h, zpow_of_nonneg h, decide_eq_true_iff, Nat.mul_comm]
    exact_mod_cast Iff.rfl
  · rw [if_neg h, zpow_of_neg h, decide_eq_true_iff, inv_mul_le_iff₀ (by positivity), Nat.mul_comm]
    exact_mod_cast Iff.rfl

theorem floorLog2_bounds {num den : ℕ} (some_num : num ≠ 0) (some_den : den ≠ 0) :
    (2 : ℚ) ^ floorLog2 num den ≤ (num : ℚ) / den ∧
      (num : ℚ) / den < 2 ^ (floorLog2 num den + 1) := by
  obtain ⟨low, high⟩ := quotient_near_log2 some_num some_den
  have reached := @two_pow_le_quotient_iff num den some_den ((num.log2 : ℤ) - den.log2)
  unfold floorLog2
  simp only [Nat.pow_eq]
  by_cases h : (2 : ℚ) ^ ((num.log2 : ℤ) - den.log2) ≤ num / den
  · rw [if_pos (reached.mpr h)]
    exact ⟨h, high⟩
  · rw [if_neg (mt reached.mp h), sub_add_cancel]
    exact ⟨low, not_le.mp h⟩

/-- A mantissa and an exponent that a quotient is rounded to. The mantissa has 53 bits unless the
exponent is the least. -/
structure Nearest (x : ℚ) (m : ℕ) (e : ℤ) : Prop where
  rounds : Rounds m (x / 2 ^ e)
  least : leastExponent ≤ e
  full : e = leastExponent ∨ (2 : ℚ) ^ (52 + e) ≤ x
  fits : x < 2 ^ (53 + e)

namespace Nearest

variable {x y : ℚ} {m n : ℕ} {e f : ℤ}

theorem le_two_pow (h : Nearest x m e) : m ≤ 2 ^ 53 := by
  refine h.rounds.le_of_le_natCast ?_
  rw [div_le_iff₀ (by positivity)]
  refine h.fits.le.trans_eq ?_
  rw [zpow_add₀ (by norm_num)]
  norm_num

theorem two_pow_le (h : Nearest x m e) (full : e ≠ leastExponent) : 2 ^ 52 ≤ m := by
  refine h.rounds.le_of_natCast_le ?_
  rw [le_div_iff₀ (by positivity)]
  refine Eq.trans_le ?_ (h.full.resolve_left full)
  rw [zpow_add₀ (by norm_num)]
  norm_num

theorem exponent_le (hx : Nearest x m e) (hy : Nearest y n f) (le : x ≤ y) : e ≤ f := by
  by_contra above
  have full : (2 : ℚ) ^ (52 + e) ≤ x := hx.full.resolve_left (by
    have := hy.least
    omega)
  have step : (2 : ℚ) ^ (53 + f) ≤ 2 ^ (52 + e) :=
    zpow_le_zpow_right₀ (by norm_num) (by omega)
  have fits := hy.fits
  linarith

theorem value_le (hx : Nearest x m e) (hy : Nearest y n f) (le : x ≤ y) :
    valueOf m e ≤ valueOf n f := by
  unfold valueOf
  rcases (hx.exponent_le hy le).eq_or_lt with rfl | lt
  · have : m ≤ n := hx.rounds.mono hy.rounds (div_le_div_of_nonneg_right le (by positivity))
    exact mul_le_mul_of_nonneg_right (by exact_mod_cast this) (by positivity)
  · have low : ((2 ^ 52 : ℕ) : ℚ) ≤ n := by
      have := hy.two_pow_le (by
        have := hx.least
        omega)
      exact_mod_cast this
    have high : (m : ℚ) ≤ (2 ^ 53 : ℕ) := by exact_mod_cast hx.le_two_pow
    calc
      (m : ℚ) * 2 ^ e ≤ (2 ^ 53 : ℕ) * 2 ^ e := mul_le_mul_of_nonneg_right high (by positivity)
      _ = (2 ^ 52 : ℕ) * 2 ^ (e + 1) := by
        rw [zpow_add₀ (by norm_num)]
        push_cast
        ring
      _ ≤ (2 ^ 52 : ℕ) * 2 ^ f :=
        mul_le_mul_of_nonneg_left (zpow_le_zpow_right₀ (by norm_num) (by omega)) (by positivity)
      _ ≤ n * 2 ^ f := mul_le_mul_of_nonneg_right low (by positivity)

theorem error_le (h : Nearest x m e) :
    2 * valueOf m e ≤ 2 * x + 2 ^ e ∧ 2 * x ≤ 2 * valueOf m e + 2 ^ e := by
  have unit : (0 : ℚ) < 2 ^ e := by positivity
  have times : x / 2 ^ e * 2 ^ e = x := div_mul_cancel₀ _ unit.ne'
  have lower := mul_le_mul_of_nonneg_right h.rounds.lower unit.le
  have upper := mul_le_mul_of_nonneg_right h.rounds.upper unit.le
  unfold valueOf
  exact ⟨by linarith, by linarith⟩

end Nearest

theorem nearest_zero : Nearest 0 0 leastExponent := by
  refine ⟨?_, le_rfl, .inl rfl, by positivity⟩
  simpa using Rounds.natCast 0

theorem exists_nearest (negative : Bool) {num den : ℕ} (some_num : num ≠ 0) (some_den : den ≠ 0) :
    ∃ m e, Nearest ((num : ℚ) / den) m e ∧ ofQuotient negative num den = assemble negative m e := by
  obtain ⟨low, high⟩ := floorLog2_bounds some_num some_den
  unfold ofQuotient
  simp only [if_neg some_num, Nat.pow_eq]
  refine ⟨_, _, ⟨?_, le_max_left _ _, ?_, ?_⟩, rfl⟩
  · generalize max leastExponent (floorLog2 num den - 52) = e
    split
    · rename_i h
      have positive : 0 < den * 2 ^ e.toNat := by positivity
      have rounds := rounds_roundQuotient num positive
      rw [zpow_of_nonneg h, div_div]
      exact_mod_cast rounds
    · rename_i h
      have rounds := rounds_roundQuotient (num * 2 ^ (-e).toNat) (Nat.pos_of_ne_zero some_den)
      rw [zpow_of_neg h, div_inv_eq_mul, div_mul_eq_mul_div]
      exact_mod_cast rounds
  · rcases max_choice leastExponent (floorLog2 num den - 52) with h | h
    · exact .inl h
    · refine .inr ?_
      rw [h, add_sub_cancel]
      exact low
  · refine high.trans_le (zpow_le_zpow_right₀ (by norm_num) ?_)
    have := le_max_right leastExponent (floorLog2 num den - 52)
    omega

/-- The place of a double. -/
def place (d : Double) : WithBot (WithTop ℚ) :=
  d.magnitude.place

/-- The size from which on a rounded value is infinite. -/
def bound : ℚ :=
  (2 ^ 53 : ℕ) * 2 ^ greatestExponent

theorem bound_pos : 0 < bound := by
  unfold bound
  positivity

def clip (v : ℚ) : WithBot (WithTop ℚ) :=
  if v ≤ -bound then ⊥
  else if bound ≤ v then ((⊤ : WithTop ℚ) : WithBot (WithTop ℚ))
  else ((v : WithTop ℚ) : WithBot (WithTop ℚ))

theorem clip_mono {v w : ℚ} (le : v ≤ w) : clip v ≤ clip w := by
  have positive := bound_pos
  unfold clip
  split_ifs
  · exact le_rfl
  · exact bot_le
  · exact bot_le
  · linarith
  · exact le_rfl
  · linarith
  · linarith
  · exact WithBot.coe_le_coe.mpr le_top
  · exact WithBot.coe_le_coe.mpr (WithTop.coe_le_coe.mpr le)

theorem clip_lt {v w : ℚ} (low : -bound < v) (high : w < bound) (lt : v < w) :
    clip v < clip w := by
  have low' : ¬w ≤ -bound := by linarith
  have high' : ¬bound ≤ v := by linarith
  unfold clip
  rw [if_neg (not_le.mpr low), if_neg high', if_neg low', if_neg (not_le.mpr high)]
  exact WithBot.coe_lt_coe.mpr (WithTop.coe_lt_coe.mpr lt)

def signedValue (negative : Bool) (v : ℚ) : ℚ :=
  if negative then -v else v

theorem place_infinite (negative : Bool) {v : ℚ} (large : bound ≤ v) :
    (infinite negative).place = clip (signedValue negative v) := by
  have positive := bound_pos
  cases negative
  · have above : ¬v ≤ -bound := by linarith
    simp only [signedValue, clip, Bool.false_eq_true, if_false, if_neg above, if_pos large]
    rfl
  · have below : -v ≤ -bound := by linarith
    simp only [signedValue, clip, if_true, if_pos below]
    rfl

theorem place_finite (negative : Bool) {m : ℕ} {e : ℤ} (small : valueOf m e < bound) :
    (finite negative m e).place = clip (signedValue negative (valueOf m e)) := by
  have least := valueOf_nonneg m e
  have inner : ¬signedValue negative (valueOf m e) ≤ -bound ∧
      ¬bound ≤ signedValue negative (valueOf m e) := by
    cases negative <;> simp only [signedValue, if_true, Bool.false_eq_true, if_false] <;>
      constructor <;> linarith
  rw [clip, if_neg inner.1, if_neg inner.2, place, magnitude, Magnitude.place, ratio_eq,
    signedValue]

theorem valueOf_carry (e : ℤ) : valueOf (2 ^ 53) e = valueOf (2 ^ 52) (e + 1) := by
  unfold valueOf
  rw [zpow_add₀ (by norm_num)]
  push_cast
  ring

theorem bound_le_valueOf {m : ℕ} {e : ℤ} (full : 2 ^ 52 ≤ m) (large : greatestExponent < e) :
    bound ≤ valueOf m e := by
  have low : ((2 ^ 52 : ℕ) : ℚ) ≤ m := by exact_mod_cast full
  calc
    bound = (2 ^ 52 : ℕ) * 2 ^ (greatestExponent + 1) := valueOf_carry greatestExponent
    _ ≤ (2 ^ 52 : ℕ) * 2 ^ e :=
      mul_le_mul_of_nonneg_left (zpow_le_zpow_right₀ (by norm_num) large) (by positivity)
    _ ≤ valueOf m e := mul_le_mul_of_nonneg_right low (by positivity)

theorem valueOf_lt_bound {m : ℕ} {e : ℤ} (bits : m < 2 ^ 53) (small : e ≤ greatestExponent) :
    valueOf m e < bound := by
  have high : (m : ℚ) < (2 ^ 53 : ℕ) := by exact_mod_cast bits
  calc
    valueOf m e < (2 ^ 53 : ℕ) * 2 ^ e := mul_lt_mul_of_pos_right high (by positivity)
    _ ≤ bound :=
      mul_le_mul_of_nonneg_left (zpow_le_zpow_right₀ (by norm_num) small) (by positivity)

theorem place_assemble {x : ℚ} {m : ℕ} {e : ℤ} (h : Nearest x m e) (negative : Bool) :
    (assemble negative m e).place = clip (signedValue negative (valueOf m e)) := by
  have settled (n : ℕ) (f : ℤ) (bits : n < 2 ^ 53) (full : greatestExponent < f → 2 ^ 52 ≤ n) :
      (if greatestExponent < f then infinite negative else finite negative n f).place =
        clip (signedValue negative (valueOf n f)) := by
    split
    · rename_i large
      exact place_infinite negative (bound_le_valueOf (full large) large)
    · rename_i small
      exact place_finite negative (valueOf_lt_bound bits (not_lt.mp small))
  unfold assemble
  simp only [Nat.pow_eq]
  by_cases carry : m = 2 ^ 53
  · rw [if_pos carry, carry, valueOf_carry]
    exact settled (2 ^ 52) (e + 1) (by norm_num) fun _ => le_rfl
  · rw [if_neg carry]
    refine settled m e (lt_of_le_of_ne h.le_two_pow carry) fun large => h.two_pow_le ?_
    rintro rfl
    exact absurd large (by decide)

theorem place_ofQuotient (negative : Bool) (num : ℕ) {den : ℕ} (some_den : den ≠ 0) :
    ∃ m e, Nearest ((num : ℚ) / den) m e ∧
      (ofQuotient negative num den).place = clip (signedValue negative (valueOf m e)) := by
  by_cases empty : num = 0
  · subst empty
    refine ⟨0, leastExponent, by simpa using nearest_zero, ?_⟩
    refine place_finite negative ?_
    unfold valueOf
    simpa using bound_pos
  · obtain ⟨m, e, near, eq⟩ := exists_nearest negative empty some_den
    refine ⟨m, e, near, ?_⟩
    rw [eq]
    exact place_assemble near negative

theorem place_ofIntQuotient (num : ℤ) {den : ℕ} (some_den : den ≠ 0) :
    ∃ m e, Nearest ((num.natAbs : ℚ) / den) m e ∧
      (ofIntQuotient num den).place = clip (signedValue (num < 0) (valueOf m e)) :=
  place_ofQuotient (num < 0) num.natAbs some_den

theorem place_ofIntQuotient_mono {a b : ℤ} {den : ℕ} (some_den : den ≠ 0) (le : a ≤ b) :
    (ofIntQuotient a den).place ≤ (ofIntQuotient b den).place := by
  obtain ⟨m, e, near_a, place_a⟩ := place_ofIntQuotient a some_den
  obtain ⟨n, f, near_b, place_b⟩ := place_ofIntQuotient b some_den
  have share {x y : ℕ} (h : x ≤ y) : (x : ℚ) / den ≤ y / den :=
    div_le_div_of_nonneg_right (by exact_mod_cast h) (by positivity)
  rw [place_a, place_b]
  refine clip_mono ?_
  unfold signedValue
  by_cases below_a : a < 0
  · by_cases below_b : b < 0
    · simpa [below_a, below_b] using near_b.value_le near_a (share (by omega))
    · have small := valueOf_nonneg m e
      have large := valueOf_nonneg n f
      simp only [below_a, below_b, decide_true, decide_false, if_true, Bool.false_eq_true, if_false]
      linarith
  · have above_b : ¬b < 0 := by omega
    simpa [below_a, above_b] using near_a.value_le near_b (share (by omega))

theorem Nearest.error_le_of_lt {x : ℚ} {m : ℕ} {e : ℤ} (h : Nearest x m e)
    (small : x < 2 ^ (33 : ℤ)) :
    2 * valueOf m e ≤ 2 * x + 2 ^ (-20 : ℤ) ∧ 2 * x ≤ 2 * valueOf m e + 2 ^ (-20 : ℤ) := by
  have unit : (2 : ℚ) ^ e ≤ 2 ^ (-20 : ℤ) := by
    refine zpow_le_zpow_right₀ (by norm_num) ?_
    rcases h.full with rfl | full
    · decide
    · have := (zpow_lt_zpow_iff_right₀ (by norm_num : (1 : ℚ) < 2)).mp (full.trans_lt small)
      omega
  obtain ⟨lower, upper⟩ := h.error_le
  exact ⟨by linarith, by linarith⟩

theorem exists_millionths_near {a : ℤ} (low : -(2 ^ 33 * 1000000) < a)
    (high : a < 2 ^ 33 * 1000000) :
    ∃ v : ℚ, (ofIntQuotient a 1000000).place = clip v ∧
      2 * v ≤ 2 * (a / 1000000) + 2 ^ (-20 : ℤ) ∧ 2 * (a / 1000000) ≤ 2 * v + 2 ^ (-20 : ℤ) := by
  obtain ⟨m, e, near, place⟩ := place_ofIntQuotient a (by decide : 1000000 ≠ 0)
  refine ⟨_, place, ?_⟩
  have small : (a.natAbs : ℚ) / (1000000 : ℕ) < 2 ^ (33 : ℤ) := by
    rw [div_lt_iff₀ (by norm_num)]
    have : a.natAbs < 2 ^ 33 * 1000000 := by omega
    exact_mod_cast this
  obtain ⟨lower, upper⟩ := near.error_le_of_lt small
  push_cast at lower upper
  by_cases negative : a < 0
  · have size : (a.natAbs : ℚ) = -a := by
      rw [Nat.cast_natAbs, abs_of_neg negative, Int.cast_neg]
    rw [size, neg_div] at lower upper
    simp only [signedValue, negative, decide_true, if_true]
    exact ⟨by linarith, by linarith⟩
  · have size : (a.natAbs : ℚ) = a := by
      rw [Nat.cast_natAbs, abs_of_nonneg (not_lt.mp negative)]
    rw [size] at lower upper
    simp only [signedValue, negative, decide_false, Bool.false_eq_true, if_false]
    exact ⟨lower, upper⟩

theorem two_pow_34_le_bound : (2 : ℚ) ^ (34 : ℤ) ≤ bound := by
  have step : (2 : ℚ) ^ (34 : ℤ) = 1 * 2 ^ (34 : ℤ) := (one_mul _).symm
  rw [step, bound]
  exact mul_le_mul (by norm_num) (zpow_le_zpow_right₀ (by norm_num) (by decide)) (by positivity)
    (by norm_num)

/-- Millionths with less than 34 bits before the point are told apart by their doubles. -/
theorem place_millionths_lt {a b : ℤ} (low : -(2 ^ 33 * 1000000) < a)
    (high : b < 2 ^ 33 * 1000000) (lt : a < b) :
    (ofIntQuotient a 1000000).place < (ofIntQuotient b 1000000).place := by
  obtain ⟨v, place_a, v_low, v_high⟩ := exists_millionths_near low (lt.trans high)
  obtain ⟨w, place_b, w_low, w_high⟩ := exists_millionths_near (low.trans lt) high
  have apart : (a : ℚ) + 1 ≤ b := by exact_mod_cast lt
  have below : -(2 ^ 33 * 1000000 : ℚ) < a := by exact_mod_cast low
  have above : (b : ℚ) < 2 ^ 33 * 1000000 := by exact_mod_cast high
  have room := two_pow_34_le_bound
  norm_num at room v_low v_high w_low w_high below above
  rw [place_a, place_b]
  exact clip_lt (by linarith) (by linarith) (by linarith)

end Double

end TableServer
