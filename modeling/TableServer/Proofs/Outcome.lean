import TableServer.Failure
import Mathlib.Data.List.Forall2

/-! Results that succeed or fail, taken apart. A chain succeeds exactly when each of its steps
does; a fallible function runs over a list exactly when it succeeds on every element. -/
namespace TableServer.Outcome

variable {ε δ α β : Type}

theorem bind_eq_ok_iff {x : Except ε α} {f : α → Except ε β} {b : β} :
    x.bind f = .ok b ↔ ∃ a, x = .ok a ∧ f a = .ok b := by
  cases x <;> simp [Except.bind]

theorem bind_eq_error_iff {x : Except ε α} {f : α → Except ε β} {e : ε} :
    x.bind f = .error e ↔ x = .error e ∨ ∃ a, x = .ok a ∧ f a = .error e := by
  cases x <;> simp [Except.bind]

theorem map_eq_ok_iff {x : Except ε α} {f : α → β} {b : β} :
    x.map f = .ok b ↔ ∃ a, x = .ok a ∧ f a = b := by
  cases x <;> simp [Except.map]

theorem map_eq_error_iff {x : Except ε α} {f : α → β} {e : ε} :
    x.map f = .error e ↔ x = .error e := by
  cases x <;> simp [Except.map]

theorem mapError_eq_error_iff {x : Except ε α} {f : ε → δ} {d : δ} :
    x.mapError f = .error d ↔ ∃ e, x = .error e ∧ f e = d := by
  cases x <;> simp [Except.mapError]

theorem mapError_eq_ok_iff {x : Except ε α} {f : ε → δ} {a : α} :
    x.mapError f = .ok a ↔ x = .ok a := by
  cases x <;> simp [Except.mapError]

theorem mapM_cons_eq_ok_iff {f : α → Except ε β} {x : α} {xs : List α} {ys : List β} :
    (x :: xs).mapM f = .ok ys ↔ ∃ y zs, f x = .ok y ∧ xs.mapM f = .ok zs ∧ y :: zs = ys := by
  rw [List.mapM_cons]
  cases hx : f x with
  | error e => simp [bind, Except.bind]
  | ok y => cases hxs : xs.mapM f <;> simp [bind, Except.bind, pure, Except.pure]

theorem mapM_eq_ok_iff {f : α → Except ε β} {xs : List α} {ys : List β} :
    xs.mapM f = .ok ys ↔ List.Forall₂ (fun x y => f x = .ok y) xs ys := by
  induction xs generalizing ys with
  | nil => cases ys <;> simp [pure, Except.pure]
  | cons x xs ih =>
      rw [mapM_cons_eq_ok_iff, List.forall₂_cons_left_iff]
      constructor
      · rintro ⟨y, zs, hx, hxs, rfl⟩
        exact ⟨y, zs, hx, ih.mp hxs, rfl⟩
      · rintro ⟨y, zs, hx, hxs, rfl⟩
        exact ⟨y, zs, hx, ih.mpr hxs, rfl⟩

theorem length_of_mapM {f : α → Except ε β} {xs : List α} {ys : List β}
    (h : xs.mapM f = .ok ys) : ys.length = xs.length :=
  (mapM_eq_ok_iff.mp h).length_eq.symm

theorem exists_of_mem_mapM {f : α → Except ε β} {xs : List α} {ys : List β} {y : β}
    (h : xs.mapM f = .ok ys) (hy : y ∈ ys) : ∃ x ∈ xs, f x = .ok y := by
  induction xs generalizing ys with
  | nil =>
      cases h
      cases hy
  | cons x xs ih =>
      obtain ⟨z, zs, hx, hxs, rfl⟩ := mapM_cons_eq_ok_iff.mp h
      rcases List.mem_cons.mp hy with rfl | hy
      · exact ⟨x, by simp, hx⟩
      · obtain ⟨w, hw, hf⟩ := ih hxs hy
        exact ⟨w, by simp [hw], hf⟩

theorem read_of_mem_mapM {f : α → Except ε β} {xs : List α} {ys : List β} {x : α}
    (h : xs.mapM f = .ok ys) (hx : x ∈ xs) : ∃ y ∈ ys, f x = .ok y := by
  induction xs generalizing ys with
  | nil => cases hx
  | cons z xs ih =>
      obtain ⟨y, zs, hz, hxs, rfl⟩ := mapM_cons_eq_ok_iff.mp h
      rcases List.mem_cons.mp hx with rfl | hx
      · exact ⟨y, by simp, hz⟩
      · obtain ⟨w, hw, hf⟩ := ih hxs hx
        exact ⟨w, by simp [hw], hf⟩

/-- A list on which two complementary parts succeed succeeds. The parts of its results are told
apart by the results. -/
theorem mapM_of_filters {f : α → Except ε β} {p : α → Bool} {t : β → Bool}
    (apart : ∀ x y, f x = .ok y → t y = p x) {xs : List α} {ys zs : List β}
    (hn : (xs.filter (!p ·)).mapM f = .ok ys) (hp : (xs.filter p).mapM f = .ok zs) :
    ∃ out, xs.mapM f = .ok out ∧ out.filter (!t ·) = ys ∧ out.filter t = zs := by
  induction xs generalizing ys zs with
  | nil =>
      cases hn
      cases hp
      exact ⟨[], rfl, rfl, rfl⟩
  | cons x xs ih =>
      cases hx : p x with
      | false =>
          rw [List.filter_cons_of_pos (by simp [hx])] at hn
          rw [List.filter_cons_of_neg (by simp [hx])] at hp
          obtain ⟨y, others, hy, hys, rfl⟩ := mapM_cons_eq_ok_iff.mp hn
          obtain ⟨out, ho, rfl, rfl⟩ := ih hys hp
          have told : t y = false := (apart x y hy).trans hx
          exact ⟨y :: out, mapM_cons_eq_ok_iff.mpr ⟨y, out, hy, ho, rfl⟩, by simp [told],
            by simp [told]⟩
      | true =>
          rw [List.filter_cons_of_neg (by simp [hx])] at hn
          rw [List.filter_cons_of_pos (by simp [hx])] at hp
          obtain ⟨y, others, hy, hzs, rfl⟩ := mapM_cons_eq_ok_iff.mp hp
          obtain ⟨out, ho, rfl, rfl⟩ := ih hn hzs
          have told : t y = true := (apart x y hy).trans hx
          exact ⟨y :: out, mapM_cons_eq_ok_iff.mpr ⟨y, out, hy, ho, rfl⟩, by simp [told],
            by simp [told]⟩

theorem mapM_mapM_eq_ok_iff {γ : Type} {f : α → Except ε β} {g : β → Except ε γ} {xs : List α}
    {out : List γ} : (∃ ys, xs.mapM f = .ok ys ∧ ys.mapM g = .ok out) ↔
      xs.mapM (fun x => (f x).bind g) = .ok out := by
  induction xs generalizing out with
  | nil =>
      constructor
      · rintro ⟨ys, h, hg⟩
        cases h
        exact hg
      · intro h
        exact ⟨[], rfl, h⟩
  | cons x xs ih =>
      rw [mapM_cons_eq_ok_iff]
      constructor
      · rintro ⟨_, h, hg⟩
        obtain ⟨y, ys, hx, hxs, rfl⟩ := mapM_cons_eq_ok_iff.mp h
        obtain ⟨z, zs, hz, hzs, rfl⟩ := mapM_cons_eq_ok_iff.mp hg
        exact ⟨z, zs, bind_eq_ok_iff.mpr ⟨y, hx, hz⟩, ih.mp ⟨ys, hxs, hzs⟩, rfl⟩
      · rintro ⟨z, zs, h, hzs, rfl⟩
        obtain ⟨y, hx, hz⟩ := bind_eq_ok_iff.mp h
        obtain ⟨ys, hxs, hys⟩ := ih.mpr hzs
        exact ⟨y :: ys, mapM_cons_eq_ok_iff.mpr ⟨y, ys, hx, hxs, rfl⟩,
          mapM_cons_eq_ok_iff.mpr ⟨z, zs, hz, hys, rfl⟩⟩

theorem mapM_agree {f g : α → Except ε β} {xs : List α} {ys zs : List β}
    (agree : ∀ x ∈ xs, ∀ y z, f x = .ok y → g x = .ok z → y = z) (hf : xs.mapM f = .ok ys)
    (hg : xs.mapM g = .ok zs) : ys = zs := by
  induction xs generalizing ys zs with
  | nil => exact Except.ok.inj (hf.symm.trans hg)
  | cons x xs ih =>
      obtain ⟨y, ys, hy, hys, rfl⟩ := mapM_cons_eq_ok_iff.mp hf
      obtain ⟨z, zs, hz, hzs, rfl⟩ := mapM_cons_eq_ok_iff.mp hg
      obtain rfl := agree x (by simp) y z hy hz
      rw [ih (fun w hw => agree w (by simp [hw])) hys hzs]

theorem mapM_of_mapM {f g : α → Except ε β} {xs : List α} {ys : List β}
    (same : ∀ x ∈ xs, ∀ y, f x = .ok y → g x = .ok y) (h : xs.mapM f = .ok ys) :
    xs.mapM g = .ok ys := by
  induction xs generalizing ys with
  | nil => exact h
  | cons x xs ih =>
      obtain ⟨y, zs, hx, hxs, rfl⟩ := mapM_cons_eq_ok_iff.mp h
      have tail := ih (fun w hw => same w (by simp [hw])) hxs
      exact mapM_cons_eq_ok_iff.mpr ⟨y, zs, same x (by simp) y hx, tail, rfl⟩

theorem mapM_eq_ok_map {f : α → Except ε β} {g : α → β} {xs : List α}
    (h : ∀ x ∈ xs, f x = .ok (g x)) : xs.mapM f = .ok (xs.map g) := by
  induction xs with
  | nil => rfl
  | cons x xs ih =>
      have tail := ih fun y hy => h y (by simp [hy])
      exact mapM_cons_eq_ok_iff.mpr ⟨g x, xs.map g, h x (by simp), tail, rfl⟩

theorem exists_map_of_mapM {f : α → Except ε α} {xs ys : List α} (h : xs.mapM f = .ok ys) :
    ∃ g : α → α, xs.map g = ys ∧ ∀ x ∈ xs, f x = .ok (g x) := by
  have each : ∀ x ∈ xs, f x = .ok ((f x).toOption.getD x) := by
    intro x hx
    obtain ⟨y, -, hy⟩ := read_of_mem_mapM h hx
    rw [hy]
    rfl
  exact ⟨_, Except.ok.inj ((mapM_eq_ok_map each).symm.trans h), each⟩

end TableServer.Outcome
