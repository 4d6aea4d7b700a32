import TableServer.Proofs.Query.Stages
import TableServer.Proofs.Query.Windows

/-! Pages of a result. A window cuts the result of a query as it would stand without it, so that
pages in their order give the whole result, and every spelling of a window gives the same. -/
namespace TableServer

theorem flatMap_pages {α : Type} (xs : List α) (size count : Nat) :
    (List.range count).flatMap (fun i => (xs.drop (i * size)).take size) =
      xs.take (count * size) := by
  induction count with
  | zero => simp
  | succ count ih =>
      rw [List.range_succ, List.flatMap_append, ih, Nat.succ_mul, List.take_add]
      simp

def QueryResult.page (r : QueryResult) (offset limit : Nat) : QueryResult :=
  ⟨(r.rows.drop offset).take limit, r.total, offset⟩

namespace Query

variable {q : Query} {rows : List Value} {full : QueryResult}

theorem length_of_run (whole : q.withWindow .whole = q) (h : q.run rows = .ok full) :
    full.rows.length = full.total := by
  obtain ⟨found, sorted, shown, projected, -, ho, hw, hp, rfl⟩ := run_eq_ok_iff.mp h
  obtain ⟨own, hown, hr⟩ := ordered_eq_ok_iff.mp ho
  rw [← whole, windowRelations_eq] at hw
  rw [orderRelations_eq] at hr
  calc
    projected.length = shown.length := Projection.length_rows hp
    _ = sorted.length := length_overRelations hw
    _ = own.length := length_overRelations hr
    _ = found.length := (orderRows_perm hown).length_eq

theorem run_withWindow (whole : q.withWindow .whole = q) (h : q.run rows = .ok full) (w : Window) :
    (q.withWindow w).run rows = .ok ⟨w.apply full.rows, full.total, w.offset.getD 0⟩ := by
  obtain ⟨found, sorted, shown, projected, hm, ho, hw, hp, rfl⟩ := run_eq_ok_iff.mp h
  rw [← whole, windowRelations_eq] at hw
  rw [Projection.rows_eq_mapM] at hp
  refine run_eq_ok_iff.mpr ⟨found, sorted, w.apply shown, w.apply projected, hm, ho, ?_, ?_, rfl⟩
  · rw [windowRelations_eq]
    exact overRelations_apply hw w
  · rw [Projection.rows_eq_mapM]
    exact Window.apply_of_mapM hp w

def answer (pairs : List (String × String)) (header : Option String) (rows : List Value) :
    Outcome QueryResult :=
  (read pairs header).bind fun q => q.run rows

variable {pairs told all : List (String × String)}

theorem answer_eq_ok_iff {header : Option String} :
    answer pairs header rows = .ok full ↔ ∃ q, read pairs header = .ok q ∧ q.run rows = .ok full :=
  Outcome.bind_eq_ok_iff

theorem answer_page {a n : Nat} {header : Option String} (whole : q.withWindow .whole = q)
    (hr : q.run rows = .ok full) (h : read all header = .ok (q.withWindow ⟨some a, some n⟩)) :
    answer all header rows = .ok (full.page a n) :=
  answer_eq_ok_iff.mpr ⟨_, h, run_withWindow whole hr ⟨some a, some n⟩⟩

/-- Pages by offsets and limits, as many as the total asks for, give the whole result. -/
theorem answer_pages (whole : q.withWindow .whole = q) (hq : read pairs none = .ok q)
    (hr : q.run rows = .ok full) (header : Option String) {size last : Nat}
    {pages : Nat → List (String × String)} (enough : full.total ≤ (last + 1) * size)
    (small : size < 10 ^ Number.digitLimit) (far : last * size < 10 ^ Number.digitLimit)
    (windowed : ∀ i ≤ last,
      Windowed pairs [("offset", toString (i * size)), ("limit", toString size)] (pages i)) :
    ∃ results, (List.range (last + 1)).mapM (fun i => answer (pages i) header rows) =
        .ok results ∧
      results.flatMap QueryResult.rows = full.rows ∧ ∀ r ∈ results, r.total = full.total := by
  have page : ∀ i ∈ List.range (last + 1),
      answer (pages i) header rows = .ok (full.page (i * size) size) := by
    intro i hi
    have reached : i ≤ last := Nat.le_of_lt_succ (List.mem_range.mp hi)
    have near : i * size < 10 ^ Number.digitLimit :=
      Nat.lt_of_le_of_lt (Nat.mul_le_mul_right size reached) far
    exact answer_page whole hr ((windowed i reached).read_counts hq near small header)
  refine ⟨_, Outcome.mapM_eq_ok_map page, ?_, ?_⟩
  · rw [List.flatMap_map]
    change (List.range (last + 1)).flatMap (fun i => (full.rows.drop (i * size)).take size) =
      full.rows
    rw [flatMap_pages]
    exact List.take_of_length_le (by rwa [length_of_run whole hr])
  · intro r hm
    obtain ⟨i, -, rfl⟩ := List.mem_map.mp hm
    rfl

/-- Pages of a result that is told without a window give its rows in their order, each with the
total of the whole. A window is the same rows however it is told: by an offset and a limit, by a
range with both ends, or by a range header. -/
theorem pages_and_windows (plain : ∀ pair ∈ pairs, Parameter.isWindow pair = false)
    (unpaged : answer pairs none rows = .ok full) (header : Option String) :
    (∀ (size last : Nat) (pages : Nat → List (String × String)),
      full.total ≤ (last + 1) * size →
      size < 10 ^ Number.digitLimit → last * size < 10 ^ Number.digitLimit →
      (∀ i ≤ last,
        Windowed pairs [("offset", toString (i * size)), ("limit", toString size)] (pages i)) →
      ∃ results, (List.range (last + 1)).mapM (fun i => answer (pages i) header rows) =
          .ok results ∧
        results.flatMap QueryResult.rows = full.rows ∧ ∀ r ∈ results, r.total = full.total) ∧
    ∀ (a b : Nat) (counted ranged : List (String × String)), a ≤ b →
      b < 10 ^ Number.digitLimit → b - a + 1 < 10 ^ Number.digitLimit →
      Windowed pairs [("offset", toString a), ("limit", toString (b - a + 1))] counted →
      Windowed pairs [("range", toString a ++ "-" ++ toString b)] ranged →
      answer counted header rows = .ok (full.page a (b - a + 1)) ∧
      answer ranged header rows = .ok (full.page a (b - a + 1)) ∧
      answer pairs (some (toString a ++ "-" ++ toString b)) rows =
        .ok (full.page a (b - a + 1)) ∧
      answer pairs (some ("items=" ++ toString a ++ "-" ++ toString b)) rows =
        .ok (full.page a (b - a + 1)) := by
  obtain ⟨q, hq, hr⟩ := answer_eq_ok_iff.mp unpaged
  obtain ⟨p, xs, -, -, -, whole⟩ := read_of_unwindowed plain hq
  refine ⟨fun _ _ _ enough small far windowed =>
    answer_pages whole hq hr header enough small far windowed, ?_⟩
  intro a b counted ranged le hb hn by_counts by_range
  have small : a < 10 ^ Number.digitLimit := Nat.lt_of_le_of_lt le hb
  have range : (toString a ++ "-" ++ toString b).toList = Window.rangeOf a b := by
    simp [Window.rangeOf, numeral]
  have items : ("items=" ++ toString a ++ "-" ++ toString b).toList =
      "items=".toList ++ Window.rangeOf a b := by
    simp [Window.rangeOf, numeral]
  refine ⟨?_, ?_, ?_, ?_⟩
  · exact answer_page whole hr (by_counts.read_counts hq small hn header)
  · exact answer_page whole hr (by_range.read_range range hq le hb header)
  · exact answer_page whole hr
      (read_header plain hq (Window.readHeader_rangeOf le hb (Or.inl range)))
  · exact answer_page whole hr
      (read_header plain hq (Window.readHeader_rangeOf le hb (Or.inr items)))

def threeRows : List Value :=
  [.object [("id", .ofInt 1)], .object [("id", .ofInt 2)], .object [("id", .ofInt 3)]]

theorem pages_and_windows_of_two_rows :
    let pairs := [("id", "neq.2")]
    let kept : List Value := [.object [("id", .ofInt 1)], .object [("id", .ofInt 3)]]
    let page (i : Nat) := [("limit", toString 1), ("id", "neq.2"), ("offset", toString (i * 1))]
    (∃ results, (List.range 2).mapM (fun i => answer (page i) none threeRows) = .ok results ∧
      results.flatMap QueryResult.rows = kept ∧ ∀ r ∈ results, r.total = 2) ∧
    answer [("id", "neq.2"), ("offset", "1"), ("limit", "1")] none threeRows =
      .ok (QueryResult.page ⟨kept, 2, 0⟩ 1 1) ∧
    answer [("range", "1-1"), ("id", "neq.2")] none threeRows =
      .ok (QueryResult.page ⟨kept, 2, 0⟩ 1 1) ∧
    answer pairs (some "1-1") threeRows = .ok (QueryResult.page ⟨kept, 2, 0⟩ 1 1) ∧
    answer pairs (some "items=1-1") threeRows = .ok (QueryResult.page ⟨kept, 2, 0⟩ 1 1) := by
  intro pairs kept page
  have unpaged : answer pairs none threeRows = .ok ⟨kept, 2, 0⟩ := by rfl
  have plain : ∀ pair ∈ pairs, Parameter.isWindow pair = false := by decide
  have one : 1 < 10 ^ Number.digitLimit := Nat.one_lt_pow (by decide) (by decide)
  obtain ⟨tiles, windows⟩ := pages_and_windows plain unpaged none
  refine ⟨tiles 1 1 page (by decide) one one fun i _ => ⟨rfl, ?_⟩, ?_⟩
  · exact List.Perm.swap _ _ _
  · exact windows 1 1 [("id", "neq.2"), ("offset", "1"), ("limit", "1")]
      [("range", "1-1"), ("id", "neq.2")] (by decide) one one ⟨rfl, .refl _⟩ ⟨rfl, .refl _⟩

end Query

end TableServer
