import TableServer.Text.Runs
import Mathlib.Algebra.Order.Group.Int
import Mathlib.Data.List.Basic

/-! Runs and shifts of code points as wholes. Whether a list of shifts moves all code points of a
shift, or none of them, is told by the ends and the step of the shift, without a look at its code
points. -/
namespace TableServer.Text

namespace Shift

def Moves (s : Shift) (code : Nat) : Prop :=
  s.first ≤ code ∧ code ≤ s.last ∧ (code - s.first) % s.step = 0

def back (s : Shift) : Shift :=
  ⟨(s.first + s.delta).toNat, (s.last + s.delta).toNat, s.step, -s.delta⟩

def all (s : Shift) (p : Nat → Bool) : Bool :=
  (List.range ((s.last - s.first) / s.step + 1)).all fun k => p (s.first + k * s.step)

/-- Whether another shift moves all of these code points, and as far. -/
def partOf (s r : Shift) : Bool :=
  r.first.ble s.first && s.last.ble r.last && ((s.first - r.first) % r.step).beq 0 &&
    (s.step % r.step).beq 0 && r.delta == s.delta

def misses (s r : Shift) : Bool :=
  r.first.ble s.first && (s.step % r.step).beq 0 && !((s.first - r.first) % r.step).beq 0

variable {s r : Shift} {code : Nat} {p : Nat → Bool}

theorem of_all (h : s.all p = true) (moves : s.Moves code) : p code = true := by
  obtain ⟨low, high, step⟩ := moves
  have place : s.first + (code - s.first) / s.step * s.step = code := by
    rw [Nat.div_mul_cancel (Nat.dvd_of_mod_eq_zero step)]
    omega
  have few : (code - s.first) / s.step < (s.last - s.first) / s.step + 1 :=
    Nat.lt_succ_of_le (Nat.div_le_div_right (by omega))
  have told := List.all_eq_true.mp h _ (List.mem_range.mpr few)
  rwa [place] at told

theorem moves_back (start : 0 ≤ s.first + s.delta) (moves : s.Moves code) :
    s.back.Moves (code + s.delta).toNat ∧ ((code + s.delta).toNat + s.back.delta).toNat = code := by
  obtain ⟨low, high, step⟩ := moves
  have same : (code + s.delta).toNat - (s.first + s.delta).toNat = code - s.first := by omega
  refine ⟨⟨?_, ?_, ?_⟩, ?_⟩
  · change (s.first + s.delta).toNat ≤ _
    omega
  · change _ ≤ (s.last + s.delta).toNat
    omega
  · change (_ - (s.first + s.delta).toNat) % s.step = 0
    rw [same, step]
  · change ((code + s.delta).toNat + -s.delta).toNat = code
    omega

theorem Moves.step_dvd_iff (moves : s.Moves code) (steps : s.step % r.step = 0)
    (low : r.first ≤ s.first) :
    (code - r.first) % r.step = 0 ↔ (s.first - r.first) % r.step = 0 := by
  obtain ⟨reached, -, step⟩ := moves
  have split : code - r.first = (code - s.first) + (s.first - r.first) := by omega
  have whole : r.step ∣ code - s.first :=
    Nat.dvd_trans (Nat.dvd_of_mod_eq_zero steps) (Nat.dvd_of_mod_eq_zero step)
  rw [← Nat.dvd_iff_mod_eq_zero, ← Nat.dvd_iff_mod_eq_zero, split, Nat.dvd_add_right whole]

theorem moves_of_partOf (h : s.partOf r = true) (moves : s.Moves code) :
    r.Moves code ∧ r.delta = s.delta := by
  simp only [partOf, Bool.and_eq_true, Nat.ble_eq, Nat.beq_eq, beq_iff_eq] at h
  obtain ⟨⟨⟨⟨first, last⟩, aligned⟩, steps⟩, delta⟩ := h
  have step := (moves.step_dvd_iff steps first).mpr aligned
  exact ⟨⟨first.trans moves.1, moves.2.1.trans last, step⟩, delta⟩

theorem not_step_of_misses (h : s.misses r = true) (moves : s.Moves code) :
    r.first ≤ code ∧ (code - r.first) % r.step ≠ 0 := by
  simp only [misses, Bool.and_eq_true, Nat.ble_eq, Nat.beq_eq, Bool.not_eq_true',
    ← Bool.not_eq_true] at h
  obtain ⟨⟨first, steps⟩, apart⟩ := h
  exact ⟨first.trans moves.1, mt (moves.step_dvd_iff steps first).mp apart⟩

end Shift

namespace Shifts

def includes (s : Shift) : Shifts → Bool
  | [] => false
  | r :: rest => (r.last.blt s.first && r.first.ble r.last && includes s rest) || s.partOf r

def spares (s : Shift) : Shifts → Bool
  | [] => true
  | r :: rest =>
      (r.last.blt s.first && r.first.ble r.last && spares s rest) || s.last.blt r.first ||
        s.misses r && spares s rest

variable {shifts : Shifts} {s : Shift} {code : Nat}

theorem applyTo_cases (shifts : Shifts) (code : Nat) : shifts.applyTo code = code ∨
    ∃ s ∈ shifts, s.Moves code ∧ shifts.applyTo code = (code + s.delta).toNat := by
  induction shifts with
  | nil => exact .inl rfl
  | cons s rest ih =>
      have later : applyTo rest code = code ∨ ∃ r ∈ s :: rest, r.Moves code ∧
          applyTo rest code = (code + r.delta).toNat :=
        ih.imp_right fun ⟨r, hr, told⟩ => ⟨r, List.mem_cons_of_mem s hr, told⟩
      unfold applyTo
      split_ifs with before within step
      · exact .inl rfl
      · exact .inr ⟨s, by simp, ⟨not_lt.mp before, within, step⟩, rfl⟩
      · exact later
      · exact later

/-- A code point stays, or one of the shifts moves it, and the shift back leads back to it. -/
theorem moved_cases (start : ∀ s ∈ shifts, 0 ≤ s.first + s.delta) (code : Nat) :
    shifts.applyTo code = code ∨ ∃ s ∈ shifts, s.Moves code ∧
      s.back.Moves (shifts.applyTo code) ∧
        (shifts.applyTo code + s.back.delta).toNat = code := by
  rcases applyTo_cases shifts code with stays | ⟨s, hs, moves, moved⟩
  · exact .inl stays
  · rw [moved]
    exact .inr ⟨s, hs, moves, Shift.moves_back (start s hs) moves⟩

theorem applyTo_of_includes (h : includes s shifts = true) (moves : s.Moves code) :
    shifts.applyTo code = (code + s.delta).toNat := by
  induction shifts with
  | nil => cases h
  | cons r rest ih =>
      simp only [includes, Bool.or_eq_true, Bool.and_eq_true, Nat.ble_eq, Nat.blt_eq] at h
      rcases h with ⟨⟨before, filled⟩, later⟩ | part
      · have behind := before.trans_le moves.1
        rw [applyTo, if_neg (by omega), if_neg (not_le.mpr behind), ih later]
      · obtain ⟨⟨low, high, step⟩, delta⟩ := Shift.moves_of_partOf part moves
        rw [applyTo, if_neg (not_lt.mpr low), if_pos high, if_pos step, delta]

theorem applyTo_of_spares (h : spares s shifts = true) (moves : s.Moves code) :
    shifts.applyTo code = code := by
  induction shifts with
  | nil => rfl
  | cons r rest ih =>
      simp only [spares, Bool.or_eq_true, Bool.and_eq_true, Nat.ble_eq, Nat.blt_eq] at h
      rcases h with (⟨⟨before, filled⟩, later⟩ | beyond) | ⟨apart, later⟩
      · have behind := before.trans_le moves.1
        rw [applyTo, if_neg (by omega), if_neg (not_le.mpr behind), ih later]
      · rw [applyTo, if_pos (moves.2.1.trans_lt beyond)]
      · obtain ⟨low, step⟩ := Shift.not_step_of_misses apart moves
        rw [applyTo, if_neg (not_lt.mpr low), if_neg step, ih later, ite_self]

end Shifts

def Runs.includes (s : Shift) : Runs → Bool
  | [] => false
  | (first, last) :: rest =>
      (last.blt s.first && first.ble last && includes s rest) ||
        first.ble s.first && s.last.ble last

theorem Runs.placeOf?_of_includes {runs : Runs} {s : Shift} {code : Nat}
    (h : runs.includes s = true) (moves : s.Moves code) : (runs.placeOf? code).isSome = true := by
  induction runs with
  | nil => cases h
  | cons run rest ih =>
      obtain ⟨first, last⟩ := run
      simp only [includes, Bool.or_eq_true, Bool.and_eq_true, Nat.ble_eq, Nat.blt_eq] at h
      rcases h with ⟨⟨before, filled⟩, later⟩ | ⟨low, high⟩
      · have behind := before.trans_le moves.1
        rw [placeOf?, if_neg (by omega), if_neg (not_le.mpr behind)]
        exact ih later
      · rw [placeOf?, if_neg (not_lt.mpr (low.trans moves.1)), if_pos (moves.2.1.trans high)]
        rfl

end TableServer.Text
