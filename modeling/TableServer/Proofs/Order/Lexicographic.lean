import Mathlib.Data.List.Lex
import TableServer.Proofs.Filter.Bounds
import TableServer.Proofs.Value.Equality

/-! Ordering by several terms. Sort keys of all kinds lie on one line, so a term compares rows by
their places on it, with the rows without a key at one of its ends. Rows that are ordered by terms
stand in the order of the first term, then of the second, and so on, and rows that tie on all terms
keep the order in which they were given. -/
namespace TableServer

namespace CodePoint

theorem toNat_injective : Function.Injective toNat := by
  intro a b same
  cases a with
  | char c =>
      cases b with
      | char d => rw [Char.toNat_inj.mp same]
      | surrogate place =>
          have apart := not_surrogate c
          simp only [toNat] at same
          omega
  | surrogate place =>
      cases b with
      | char d =>
          have apart := not_surrogate d
          simp only [toNat] at same
          omega
      | surrogate other =>
          simp only [toNat] at same
          exact congrArg surrogate (Fin.ext (by omega))

instance : LinearOrder CodePoint :=
  LinearOrder.lift' toNat toNat_injective

end CodePoint

namespace SortKey

/-- Keys that compare with keys of their rank. -/
def Definite : SortKey → Prop
  | number n => n.magnitude ≠ .undefined
  | instant s => s.magnitude ≠ .undefined
  | _ => True

/-- Places on the line of all keys: a rank, and behind that a size or a text. -/
abbrev Place := ℕ ×ₗ WithBot (WithTop ℚ) ×ₗ Codes

def place : SortKey → Place
  | boolean b => toLex (0, toLex ((Magnitude.exact (if b then 1 else 0)).place, []))
  | number n => toLex (1, toLex (n.magnitude.place, []))
  | instant s => toLex (2, toLex (s.magnitude.place, []))
  | string s => toLex (3, toLex (⊥, s))
  | container text => toLex (4, toLex (⊥, text))

theorem lt_eq_place {a b : SortKey} (ha : a.Definite) (hb : b.Definite) :
    a.lt b = decide (a.place < b.place) := by
  cases a <;> cases b
  case boolean.boolean a b =>
    cases a <;> cases b <;> simp [lt, place, Magnitude.place, Prod.Lex.toLex_lt_toLex]
  case number.number a b =>
    simp [lt, place, Number.lt_eq_place ha hb, Prod.Lex.toLex_lt_toLex]
  case instant.instant a b =>
    simp [lt, place, Magnitude.lt_eq_place ha hb, Prod.Lex.toLex_lt_toLex]
  all_goals simp [lt, rank, place, Prod.Lex.toLex_lt_toLex]

theorem lt_self (k : SortKey) : k.lt k = false := by
  have irreflexive (m : Magnitude) : m.lt m = false := by cases m <;> simp [Magnitude.lt]
  cases k with
  | boolean b => cases b <;> rfl
  | number n => exact irreflexive n.magnitude
  | instant s => exact irreflexive s.magnitude
  | string s => simp [lt]
  | container s => simp [lt]

theorem definite_ofValue {v : Value} (h : (ofValue v).isNan = false) : (ofValue v).Definite := by
  cases v with
  | number n => exact Value.magnitude_ne_undefined h
  | string s =>
      rw [ofValue, ofString]
      split
      · rename_i i _
        exact i.magnitude_timestamp
      · trivial
  | _ => trivial

end SortKey

namespace OrderTerm

variable {t : OrderTerm} {row a b : Value}

/-- The key by which a term sorts a row; none where the row has none. -/
def keyOf (t : OrderTerm) (row : Value) : Option SortKey :=
  (t.key? row).toOption.join

/-- A term that finds the key of a row, which is not one that compares with nothing. -/
def Finds (t : OrderTerm) (row : Value) : Prop :=
  ∃ key, t.key? row = .ok key ∧ comparable key = true

/-- Whether one row stands before another by a term: by their keys upwards or downwards, and at the
end that the term tells where one of them has none. -/
def precedes (t : OrderTerm) (a b : Value) : Bool :=
  match t.keyOf a, t.keyOf b with
  | none, none => false
  | none, some _ => t.putsNullsFirst
  | some _, none => !t.putsNullsFirst
  | some j, some k => if t.ascending then j.lt k else k.lt j

def ties (t : OrderTerm) (a b : Value) : Bool :=
  !t.precedes a b && !t.precedes b a

/-- The place of a row by a term. Rows without a key are at one of the ends. -/
def place (t : OrderTerm) (row : Value) : WithBot (WithTop SortKey.Place) :=
  match t.keyOf row with
  | none => if t.putsNullsFirst = t.ascending then ⊥ else (⊤ : WithTop SortKey.Place)
  | some k => (k.place : WithTop SortKey.Place)

theorem Finds.key?_eq (h : t.Finds row) : t.key? row = .ok (t.keyOf row) := by
  obtain ⟨key, found, -⟩ := h
  simp [keyOf, found, Except.toOption]

theorem Finds.comparable (h : t.Finds row) : comparable (t.keyOf row) = true := by
  obtain ⟨key, found, fine⟩ := h
  simpa [keyOf, found, Except.toOption] using fine

theorem Finds.definite (h : t.Finds row) {k : SortKey} (told : t.keyOf row = some k) :
    k.Definite := by
  have found := h.key?_eq
  have fine := h.comparable
  rw [told] at found fine
  unfold key? at found
  split at found
  · obtain ⟨v, -, keyed⟩ := Outcome.map_eq_ok_iff.mp found
    split at keyed
    · cases keyed
    · cases keyed
      exact SortKey.definite_ofValue (by simpa [OrderTerm.comparable] using fine)
  · cases found

theorem lt_eq_place (ha : t.Finds a) (hb : t.Finds b) :
    t.lt (t.keyOf a) (t.keyOf b) = decide (t.place a < t.place b) := by
  unfold place
  cases ka : t.keyOf a with
  | none =>
      cases kb : t.keyOf b with
      | none => simp [lt]
      | some k =>
          by_cases low : t.putsNullsFirst = t.ascending
          · simp only [lt, low, if_true, WithBot.bot_lt_coe, beq_self_eq_true, decide_true]
          · simp [lt, low]
  | some j =>
      cases kb : t.keyOf b with
      | none =>
          by_cases low : t.putsNullsFirst = t.ascending
          · simp [lt, low]
          · have under := WithBot.coe_lt_coe.mpr (WithTop.coe_lt_top j.place)
            dsimp only
            rw [if_neg low, decide_eq_true under, lt, bne_iff_ne]
            exact low
      | some k =>
          simp only [lt, SortKey.lt_eq_place (ha.definite ka) (hb.definite kb),
            WithBot.coe_lt_coe, WithTop.coe_lt_coe]

theorem precedes_eq_place (ha : t.Finds a) (hb : t.Finds b) :
    t.precedes a b =
      if t.ascending then decide (t.place a < t.place b) else decide (t.place b < t.place a) := by
  have turned : t.precedes a b =
      if t.ascending then t.lt (t.keyOf a) (t.keyOf b) else t.lt (t.keyOf b) (t.keyOf a) := by
    unfold precedes
    cases t.keyOf a <;> cases t.keyOf b <;> cases hd : t.ascending <;> simp [lt, hd]
  rw [turned, lt_eq_place ha hb, lt_eq_place hb ha]

theorem ties_eq_place (ha : t.Finds a) (hb : t.Finds b) :
    t.ties a b = decide (t.place a = t.place b) := by
  rw [ties, precedes_eq_place ha hb, precedes_eq_place hb ha]
  rcases lt_trichotomy (t.place a) (t.place b) with less | same | greater
  · cases t.ascending <;> simp [less, less.ne]
  · simp [same]
  · cases t.ascending <;> simp [greater, greater.ne']

theorem ties_self (t : OrderTerm) (row : Value) : t.ties row row = true := by
  have apart : t.precedes row row = false := by
    unfold precedes
    cases t.keyOf row with
    | none => rfl
    | some k => simp [k.lt_self]
  simp [ties, apart]

theorem stable_sortRows {rows : List Value} (found : ∀ row ∈ rows, t.Finds row) :
    ∃ sorted, t.sortRows rows = .ok sorted ∧ Sorting.Stable t.precedes t.ties rows sorted := by
  obtain ⟨sorted, run, stable⟩ := exists_stable (fun row hr => (found row hr).key?_eq)
    (fun row hr => (found row hr).comparable)
    fun a ha b hb => lt_eq_place (found a ha) (found b hb)
  refine ⟨sorted, run, stable.congr fun a ha b hb => ⟨?_, ?_⟩⟩
  · exact (precedes_eq_place (found a ha) (found b hb)).symm
  · exact (ties_eq_place (found a ha) (found b hb)).symm

/-- Whether one row stands before another by several terms: by the first one, or by the others where
that one ties. -/
def precedesBy : List OrderTerm → Value → Value → Bool
  | [], _, _ => false
  | t :: rest, a, b => t.precedes a b || (t.ties a b && precedesBy rest a b)

def tiesBy (terms : List OrderTerm) (a b : Value) : Bool :=
  terms.all fun t => t.ties a b

end OrderTerm

open OrderTerm

/-- Rows in which every term finds a key are ordered: they are the same rows, none stands behind one
that it precedes by the first term on which the two do not tie, and rows that tie on all terms keep
their order. -/
theorem orderRows_stable {terms : List OrderTerm} {rows : List Value}
    (found : ∀ t ∈ terms, ∀ row ∈ rows, t.Finds row) :
    ∃ sorted, orderRows terms rows = .ok sorted ∧
      Sorting.Stable (precedesBy terms) (tiesBy terms) rows sorted := by
  induction terms with
  | nil => exact ⟨rows, rfl, .refl rows, List.pairwise_of_forall fun _ _ => rfl, fun _ _ => rfl⟩
  | cons t rest ih =>
      obtain ⟨first, others⟩ := List.forall_mem_cons.mp found
      obtain ⟨between, run, minor⟩ := ih others
      obtain ⟨sorted, run', major⟩ := stable_sortRows fun row hr =>
        first row (minor.perm.mem_iff.mp hr)
      exact ⟨sorted, by rw [orderRows, run]; exact run', minor.thenBy major t.ties_self⟩

def rankedRows : List Value :=
  [.object [("rank", .string "b"), ("name", .string "x")], .object [("name", .string "y")],
    .object [("rank", .ofInt 2), ("name", .string "x")],
    .object [("rank", .string "b"), ("name", .string "y")]]

theorem orderRows_stable_of_ranked_rows :
    let terms : List OrderTerm := [⟨"rank", false, some false⟩, ⟨"name", true, none⟩]
    ∃ sorted, orderRows terms rankedRows = .ok sorted ∧
      Sorting.Stable (precedesBy terms) (tiesBy terms) rankedRows sorted := by
  refine orderRows_stable fun t ht row hr => ?_
  simp only [List.mem_cons, List.not_mem_nil, or_false] at ht
  simp only [rankedRows, List.mem_cons, List.not_mem_nil, or_false] at hr
  rcases ht with rfl | rfl <;> rcases hr with rfl | rfl | rfl | rfl
  all_goals exact ⟨_, by rfl, by rfl⟩

end TableServer
