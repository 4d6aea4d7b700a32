import TableServer.Proofs.Value.Equality

/-! Booleans that count as numbers. Loose equality takes true for one and false for zero, at any
depth. Values that it finds equal are equal as JSON values except where one of them has a boolean
and the other one the number that it counts as. -/
namespace TableServer.Value

/-- Equality of JSON values: of one kind, numbers by their magnitudes, arrays item by item and
objects member by member. What is not a number is equal to itself. Where booleans are counted, they
equal the numbers that they count as besides. -/
inductive Equal (counted : Bool) : Value → Value → Prop where
  | null : Equal counted null null
  | bool (b : Bool) : Equal counted (bool b) (bool b)
  | number {m n : Number} : m.magnitude = n.magnitude → Equal counted (number m) (number n)
  | string (s : Codes) : Equal counted (string s) (string s)
  | array {as bs : List Value} : as.length = bs.length →
      (∀ (i : Nat) (a b : Value), as[i]? = some a → bs[i]? = some b → Equal counted a b) →
      Equal counted (array as) (array bs)
  | object {ms others : Members} :
      (∀ name, Entries.find? name ms = none ↔ Entries.find? name others = none) →
      (∀ (name : Codes) (a b : Value), Entries.find? name ms = some a →
        Entries.find? name others = some b → Equal counted a b) →
      Equal counted (object ms) (object others)
  | counts {a b : Value} {m n : Number} : counted = true → a.asNumber? = some m →
      b.asNumber? = some n → m.magnitude = n.magnitude → Equal counted a b

/-- At some place one value has a boolean and the other one the number that it counts as. -/
inductive Clash : Value → Value → Prop where
  | here {a b : Value} {m n : Number} : a.kind ≠ b.kind → a.asNumber? = some m →
      b.asNumber? = some n → m.magnitude = n.magnitude → Clash a b
  | item {as bs : List Value} {i : Nat} {a b : Value} : as[i]? = some a → bs[i]? = some b →
      Clash a b → Clash (array as) (array bs)
  | member {ms others : Members} {name : Codes} {a b : Value} :
      Entries.find? name ms = some a → Entries.find? name others = some b → Clash a b →
      Clash (object ms) (object others)

/-- Equal once booleans count as numbers, which is equal outright exactly where none has to. -/
def CountedEqual (a b : Value) : Prop :=
  Equal true a b ∧ (Equal false a b ↔ ¬ Clash a b)

variable {a b : Value}

theorem Equal.kind_eq (h : Equal false a b) : a.kind = b.kind := by
  cases h with
  | counts counted _ _ _ => cases counted
  | _ => rfl

theorem Equal.counting (h : Equal false a b) : Equal true a b := by
  induction h with
  | null => exact .null
  | bool b => exact .bool b
  | number same => exact .number same
  | string s => exact .string s
  | array length _ ih => exact .array length ih
  | object names _ ih => exact .object names ih
  | counts counted _ _ _ => cases counted

theorem Clash.not_equal (h : Clash a b) : ¬ Equal false a b := by
  induction h with
  | here kinds _ _ _ => exact fun equal => kinds equal.kind_eq
  | item ha hb _ ih =>
      intro equal
      cases equal with
      | array _ items => exact ih (items _ _ _ ha hb)
      | counts counted _ _ _ => cases counted
  | member ha hb _ ih =>
      intro equal
      cases equal with
      | object _ members => exact ih (members _ _ _ ha hb)
      | counts counted _ _ _ => cases counted

theorem equal_of_kind_eq {m n : Number} (kinds : a.kind = b.kind) (ha : a.asNumber? = some m)
    (hb : b.asNumber? = some n) (same : m.magnitude = n.magnitude) : Equal false a b := by
  cases a with
  | bool x =>
      cases b with
      | bool y =>
          obtain rfl : x = y := by
            cases ha
            cases hb
            cases x <;> cases y <;> simp [Number.magnitude] at same ⊢
          exact .bool x
      | _ => cases kinds
  | number x =>
      cases b with
      | number y =>
          cases ha
          cases hb
          exact .number same
      | _ => cases kinds
  | _ => cases ha

theorem Equal.outright (h : Equal true a b) (apart : ¬ Clash a b) : Equal false a b := by
  induction h with
  | null => exact .null
  | bool b => exact .bool b
  | number same => exact .number same
  | string s => exact .string s
  | array length _ ih =>
      exact .array length fun i a b ha hb => ih i a b ha hb fun clash => apart (.item ha hb clash)
  | object names _ ih =>
      exact .object names fun name a b ha hb =>
        ih name a b ha hb fun clash => apart (.member ha hb clash)
  | counts _ ha hb same =>
      exact equal_of_kind_eq (not_not.mp fun kinds => apart (.here kinds ha hb same)) ha hb same

theorem equal_outright_iff : Equal false a b ↔ Equal true a b ∧ ¬ Clash a b := by
  constructor
  · intro equal
    exact ⟨equal.counting, fun clash => clash.not_equal equal⟩
  · rintro ⟨equal, apart⟩
    exact equal.outright apart

theorem Equal.countedEqual (h : Equal true a b) : CountedEqual a b :=
  ⟨h, by rw [equal_outright_iff, and_iff_right h]⟩

theorem Alike.equal (turn : a.same b = true → Equal true a b) (h : Alike a b) : Equal true a b := by
  rcases h with nan | same
  · obtain ⟨m, n, rfl, rfl, hm, hn⟩ := numbers_of_bothNan nan
    exact .number (hm.trans hn.symm)
  · exact turn same

theorem equal_of_same_numeric {m : Number} (numeric : a.asNumber? = some m)
    (h : a.same b = true) : Equal true a b := by
  rw [same_of_numeric_left numeric] at h
  obtain ⟨m, n, ha, hb, same, -⟩ := sameNumber_iff.mp h
  exact .counts rfl ha hb same

/-- Loose equality of values that name every member once counts booleans, and nothing else. -/
theorem equal_of_same (ha : a.Tidy) (hb : b.Tidy) (h : a.same b = true) : Equal true a b := by
  induction ha generalizing b with
  | null =>
      cases b with
      | null => exact .null
      | _ => cases h
  | bool x => exact equal_of_same_numeric rfl h
  | number n => exact equal_of_same_numeric rfl h
  | string s =>
      cases b with
      | string t =>
          obtain rfl : s = t := by simpa [same] using h
          exact .string s
      | _ => cases h
  | @array items _ ih =>
      cases b with
      | array others =>
          cases hb with
          | array tidy =>
          rw [same, sameItems_iff] at h
          refine .array h.length_eq fun i a b ha hb => ?_
          obtain ⟨inside, rfl⟩ := List.getElem?_eq_some_iff.mp ha
          obtain ⟨inside', rfl⟩ := List.getElem?_eq_some_iff.mp hb
          exact Alike.equal (ih _ (List.getElem_mem inside) (tidy _ (List.getElem_mem inside')))
            (h.get inside inside')
      | _ => cases h
  | @object members unique _ ih =>
      cases b with
      | object others =>
          cases hb with
          | object unique' tidy =>
          simp only [same, Bool.and_eq_true, decide_eq_true_eq] at h
          obtain ⟨length, partners⟩ := h
          rw [sameMembers_iff] at partners
          -- Loose equality looks members up from one side only; the lengths give the other side.
          have names := Entries.perm_names_of_partners unique length partners
          refine .object (fun name => ?_) fun name a b ha hb => ?_
          · rw [Entries.find?_eq_none_iff, Entries.find?_eq_none_iff, names.mem_iff]
          · have member := Entries.mem_of_find? ha
            obtain ⟨w, hw, alike⟩ := partners _ member
            cases hw.symm.trans hb
            exact Alike.equal (ih _ member (tidy _ (Entries.mem_of_find? hb))) alike
      | _ => cases h

end TableServer.Value
