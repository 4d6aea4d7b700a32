import TableServer.Filter.Operand
import TableServer.Order.Key
import TableServer.Proofs.Order.Measures
import TableServer.Proofs.Outcome
import TableServer.Proofs.Value.Equality

/-! Ordering tests by size. Numbers have their exact values for sizes and instants their
microseconds; values that are read in the way of a bound are compared with it by their sizes. Sort
keys have sizes of their own, in which an instant stands where its rounded timestamp does. -/
namespace TableServer

namespace Double

theorem magnitude_ofQuotient (negative : Bool) (num den : ℕ) :
    (ofQuotient negative num den).magnitude ≠ .undefined := by
  have settled (m : ℕ) (e : ℤ) :
      (if greatestExponent < e then infinite negative else finite negative m e).magnitude ≠
        .undefined := by
    split <;> cases negative <;> simp [magnitude]
  have assembled (m : ℕ) (e : ℤ) : (assemble negative m e).magnitude ≠ .undefined :=
    settled _ _
  unfold ofQuotient
  split
  · simp [zero, magnitude]
  · exact assembled _ _

end Double

namespace Instant

theorem magnitude_timestamp (i : Instant) : i.timestamp.magnitude ≠ .undefined :=
  Double.magnitude_ofQuotient _ _ _

theorem timestamp_mono {i j : Instant} (le : i.epochMicros ≤ j.epochMicros) :
    i.timestamp.place ≤ j.timestamp.place :=
  Double.place_ofIntQuotient_mono (by decide) le

end Instant

namespace Number

theorem magnitude_of_read {text : List Char} {n : Number} (h : read? text = some n) :
    n.magnitude ≠ .undefined := by
  unfold read? at h
  split at h
  · cases h
    simp [magnitude]
  · obtain ⟨d, hd, rfl⟩ := Option.map_eq_some_iff.mp h
    simp only [readDouble?, Option.bind_eq_bind, Option.bind_eq_some_iff] at hd
    obtain ⟨plain, -, e, -, hd⟩ := hd
    split at hd
    · rename_i finite
      cases hd
      cases d <;> simp_all [Double.isFinite, magnitude, Double.magnitude]
    · cases hd

end Number

namespace Comparison

def holdsSize {β : Type} [LinearOrder β] : Comparison → β → β → Bool
  | above, a, b => b < a
  | least, a, b => b ≤ a
  | below, a, b => a < b
  | most, a, b => a ≤ b

theorem holdsNumber_eq (c : Comparison) {a b : Number} (ha : a.magnitude ≠ .undefined)
    (hb : b.magnitude ≠ .undefined) :
    c.holdsNumber a b = c.holdsSize a.magnitude.place b.magnitude.place := by
  cases c <;> simp [holdsNumber, holdsSize, Number.lt_eq_place, Number.le_eq_place, ha, hb]

end Comparison

namespace Bound

/-- The size of a bound: a number's exact value, or an instant's microseconds. -/
def size : Bound → WithBot (WithTop ℚ)
  | instant i => (((i.epochMicros : ℚ) : WithTop ℚ) : WithBot (WithTop ℚ))
  | number n => n.magnitude.place

/-- The values that sort among themselves in the way in which the bound is read: finite numbers,
or texts of instants. -/
def Suits (bound : Bound) (v : Value) : Prop :=
  match bound with
  | instant _ => ∃ s i, v = .string s ∧ Instant.readCodes? s = some i
  | number _ => ∃ n q, v = .number n ∧ n.magnitude = .exact q

/-- The size of a value in the way in which the bound is read. -/
def sizeOf (bound : Bound) (v : Value) : WithBot (WithTop ℚ) :=
  match bound with
  | instant _ => v.instant?.elim ⊥ fun i => (instant i).size
  | number _ => v.number?.elim ⊥ fun n => (number n).size

theorem size_instant_le {i j : Instant} :
    (instant i).size ≤ (instant j).size ↔ i.epochMicros ≤ j.epochMicros := by
  rw [size, size, WithBot.coe_le_coe, WithTop.coe_le_coe, Int.cast_le]

theorem size_instant_lt {i j : Instant} :
    (instant i).size < (instant j).size ↔ i.epochMicros < j.epochMicros := by
  rw [size, size, WithBot.coe_lt_coe, WithTop.coe_lt_coe, Int.cast_lt]

/-- What a value is when it is read in the way of the bound. -/
def reading (bound : Bound) (v : Value) : Option Bound :=
  match bound with
  | instant _ => v.instant?.map instant
  | number _ => v.number?.map number

def isNan : Bound → Bool
  | instant _ => false
  | number n => n.isNan

variable {bound r : Bound} {v : Value}

theorem isNan_of_readBound {literal : List Char} (read : Test.readBound literal = .ok bound) :
    bound.isNan = false := by
  unfold Test.readBound at read
  split at read
  · cases read
    rfl
  · split at read
    · rename_i n hn
      cases read
      by_contra nan
      have undefined := Value.magnitude_of_isNan (Bool.eq_true_of_not_eq_false nan)
      exact Number.magnitude_of_read hn undefined
    · cases read

theorem sizeOf_of_reading (told : bound.reading v = some r) : bound.sizeOf v = r.size := by
  cases bound with
  | instant j =>
      obtain ⟨i, hi, rfl⟩ := Option.map_eq_some_iff.mp told
      rw [sizeOf, hi, Option.elim_some]
  | number n =>
      obtain ⟨m, hm, rfl⟩ := Option.map_eq_some_iff.mp told
      rw [sizeOf, hm, Option.elim_some]

theorem holds_of_reading (told : bound.reading v = some r) (hb : bound.isNan = false)
    (hr : r.isNan = false) (c : Comparison) : bound.holds c v = c.holdsSize r.size bound.size := by
  cases bound with
  | instant j =>
      obtain ⟨i, hi, rfl⟩ := Option.map_eq_some_iff.mp told
      cases c <;>
        simp [holds, hi, Comparison.holdsInstant, Comparison.holdsSize, Instant.lt, Instant.le,
          size_instant_le, size_instant_lt]
  | number n =>
      obtain ⟨m, hm, rfl⟩ := Option.map_eq_some_iff.mp told
      rw [holds, hm, Option.elim_some]
      exact c.holdsNumber_eq (Value.magnitude_ne_undefined hr) (Value.magnitude_ne_undefined hb)

theorem holds_of_unread (h : bound.reading v = none) (c : Comparison) :
    bound.holds c v = false := by
  cases bound with
  | instant i => rw [holds, Option.map_eq_none_iff.mp h, Option.elim_none]
  | number n => rw [holds, Option.map_eq_none_iff.mp h, Option.elim_none]

theorem reading_of_suits (suits : bound.Suits v) :
    ∃ r, bound.reading v = some r ∧ r.isNan = false := by
  cases bound with
  | instant j =>
      obtain ⟨s, i, rfl, hi⟩ := suits
      exact ⟨instant i, by simp [reading, Value.instant?, hi], rfl⟩
  | number m =>
      obtain ⟨n, q, rfl, hq⟩ := suits
      refine ⟨number n, rfl, Bool.eq_false_of_not_eq_true fun nan => ?_⟩
      cases hq.symm.trans (Value.magnitude_of_isNan nan)

theorem holds_eq {literal : List Char} (read : Test.readBound literal = .ok bound)
    (suits : bound.Suits v) (c : Comparison) :
    bound.holds c v = c.holdsSize (bound.sizeOf v) bound.size := by
  obtain ⟨r, told, hr⟩ := reading_of_suits suits
  rw [sizeOf_of_reading told]
  exact holds_of_reading told (isNan_of_readBound read) hr c

end Bound

namespace SortKey

def size : SortKey → WithBot (WithTop ℚ)
  | number n => n.magnitude.place
  | instant seconds => seconds.place
  | _ => ⊥

end SortKey

namespace Bound

variable {bound : Bound} {v w : Value}

theorem isNan_ofValue (suits : bound.Suits v) : (SortKey.ofValue v).isNan = false := by
  cases bound with
  | instant j =>
      obtain ⟨s, i, rfl, hi⟩ := suits
      simp [SortKey.ofValue, SortKey.ofString, hi, SortKey.isNan]
  | number m =>
      obtain ⟨n, q, rfl, hq⟩ := suits
      cases n with
      | integer n => rfl
      | double d => cases d <;> simp_all [SortKey.ofValue, SortKey.isNan, Number.isNan, Double.isNan,
          Number.magnitude, Double.magnitude]

theorem lt_ofValue (hv : bound.Suits v) (hw : bound.Suits w) :
    (SortKey.ofValue v).lt (SortKey.ofValue w) =
      decide ((SortKey.ofValue v).size < (SortKey.ofValue w).size) := by
  cases bound with
  | instant _ =>
      obtain ⟨s, i, rfl, hi⟩ := hv
      obtain ⟨t, j, rfl, hj⟩ := hw
      simp only [SortKey.ofValue, SortKey.ofString, hi, hj]
      exact Magnitude.lt_eq_place i.magnitude_timestamp j.magnitude_timestamp
  | number _ =>
      obtain ⟨m, p, rfl, hm⟩ := hv
      obtain ⟨n, q, rfl, hn⟩ := hw
      exact Number.lt_eq_place (by simp [hm]) (by simp [hn])

theorem sizeOf_le (hv : bound.Suits v) (hw : bound.Suits w)
    (apart : ∀ i j, v.instant? = some i → w.instant? = some j →
      i.timestamp.place = j.timestamp.place → i.epochMicros = j.epochMicros)
    (le : (SortKey.ofValue v).size ≤ (SortKey.ofValue w).size) :
    bound.sizeOf v ≤ bound.sizeOf w := by
  cases bound with
  | instant _ =>
      obtain ⟨s, i, rfl, hi⟩ := hv
      obtain ⟨t, j, rfl, hj⟩ := hw
      have told : (Value.string s).instant? = some i := hi
      have told' : (Value.string t).instant? = some j := hj
      simp only [SortKey.ofValue, SortKey.ofString, hi, hj, SortKey.size] at le
      simp only [sizeOf, told, told', Option.elim_some, size_instant_le]
      by_contra above
      have later := Instant.timestamp_mono (not_le.mp above).le
      exact above (apart i j told told' (le_antisymm le later)).le
  | number _ =>
      obtain ⟨m, p, rfl, hm⟩ := hv
      obtain ⟨n, q, rfl, hn⟩ := hw
      exact le

end Bound

theorem Test.read_compares {literal : List Char} {bound : Bound}
    (told : readBound literal = .ok bound) (c : Comparison) :
    read (compares c bound).operator literal = .ok (compares c bound) := by
  cases c <;> simp [operator, read, told, Except.map]

end TableServer
