import TableServer.Proofs.Outcome
import TableServer.Query.Order

/-! Sorting gives a permutation, whether keys compare or not. It looks at nothing but the
comparisons, so what is sorted may be changed before or after where the keys stay. -/
namespace TableServer

namespace Sorting

variable {α β : Type} {lt : α → α → Bool}

theorem ascendingRun_append (last : α) (xs : List α) :
    (ascendingRun lt last xs).1 ++ (ascendingRun lt last xs).2 = xs := by
  induction xs generalizing last with
  | nil => rfl
  | cons x rest ih =>
      rw [ascendingRun]
      split
      · rfl
      · exact congrArg (x :: ·) (ih x)

theorem descendingRun_append (last : α) (xs : List α) :
    (descendingRun lt last xs).1 ++ (descendingRun lt last xs).2 = xs := by
  induction xs generalizing last with
  | nil => rfl
  | cons x rest ih =>
      rw [descendingRun]
      split
      · exact congrArg (x :: ·) (ih x)
      · rfl

theorem startingRun_perm (xs : List α) :
    ((startingRun lt xs).1 ++ (startingRun lt xs).2).Perm xs := by
  match xs with
  | [] => exact .nil
  | [x] => exact .refl [x]
  | x :: y :: rest =>
      rw [startingRun]
      split
      · have whole : (descendingRun lt x (y :: rest)).1 ++ (descendingRun lt x (y :: rest)).2 =
            y :: rest := descendingRun_append x (y :: rest)
        have turned := List.reverse_perm (x :: (descendingRun lt x (y :: rest)).1)
        exact (turned.append_right _).trans (List.Perm.of_eq (congrArg (x :: ·) whole))
      · exact .of_eq (congrArg (x :: ·) (ascendingRun_append x (y :: rest)))

theorem insertBisected_perm (sorted : List α) (x : α) :
    (insertBisected lt sorted x).Perm (x :: sorted) := by
  refine List.perm_middle.trans (List.Perm.of_eq ?_)
  rw [List.take_append_drop]

theorem foldl_insertBisected_perm (rest run : List α) :
    (rest.foldl (insertBisected lt) run).Perm (run ++ rest) := by
  induction rest generalizing run with
  | nil => simp
  | cons x rest ih =>
      have inserted : (insertBisected lt run x ++ rest).Perm (x :: run ++ rest) :=
        (insertBisected_perm run x).append_right rest
      exact ((ih _).trans inserted).trans List.perm_middle.symm

theorem sort_perm (comparable : α → Bool) (xs : List α) : (sort comparable lt xs).Perm xs := by
  unfold sort
  split
  · exact List.mergeSort_perm xs _
  · exact (foldl_insertBisected_perm _ _).trans (startingRun_perm xs)

theorem sortDown_perm (comparable : α → Bool) (xs : List α) :
    (sortDown comparable lt xs).Perm xs :=
  (List.reverse_perm _).trans ((sort_perm comparable xs.reverse).trans (List.reverse_perm xs))

section Map

variable (f : α → β) (lt : β → β → Bool)

theorem ascendingRun_map (last : α) (xs : List α) :
    ascendingRun lt (f last) (xs.map f) =
      Prod.map (List.map f) (List.map f) (ascendingRun (fun a b => lt (f a) (f b)) last xs) := by
  induction xs generalizing last with
  | nil => rfl
  | cons x rest ih =>
      rw [List.map_cons, ascendingRun, ascendingRun, ih]
      split <;> rfl

theorem descendingRun_map (last : α) (xs : List α) :
    descendingRun lt (f last) (xs.map f) =
      Prod.map (List.map f) (List.map f) (descendingRun (fun a b => lt (f a) (f b)) last xs) := by
  induction xs generalizing last with
  | nil => rfl
  | cons x rest ih =>
      rw [List.map_cons, descendingRun, descendingRun, ih]
      split <;> rfl

theorem startingRun_map (xs : List α) :
    startingRun lt (xs.map f) =
      Prod.map (List.map f) (List.map f) (startingRun (fun a b => lt (f a) (f b)) xs) := by
  match xs with
  | [] => rfl
  | [x] => rfl
  | x :: y :: rest =>
      have down := descendingRun_map f lt x (y :: rest)
      have up := ascendingRun_map f lt x (y :: rest)
      rw [List.map_cons] at down up
      rw [List.map_cons, List.map_cons, startingRun, startingRun, down, up]
      split
      · simp
      · rfl

theorem insertBisected_map (sorted : List α) (x : α) :
    insertBisected lt (sorted.map f) (f x) =
      (insertBisected (fun a b => lt (f a) (f b)) sorted x).map f := by
  simp only [insertBisected, List.getElem?_map, Option.map_map, List.length_map, List.map_append,
    List.map_cons, List.map_take, List.map_drop, Function.comp_def]

theorem insertionSort_map (xs : List α) :
    insertionSort lt (xs.map f) = (insertionSort (fun a b => lt (f a) (f b)) xs).map f := by
  have inserts (rest sorted : List α) : (rest.map f).foldl (insertBisected lt) (sorted.map f) =
      (rest.foldl (insertBisected fun a b => lt (f a) (f b)) sorted).map f := by
    induction rest generalizing sorted with
    | nil => rfl
    | cons x rest ih =>
        rw [List.map_cons, List.foldl_cons, insertBisected_map, ih, List.foldl_cons]
  rw [insertionSort, startingRun_map]
  exact inserts _ _

theorem sort_map (comparable : β → Bool) (xs : List α) :
    sort comparable lt (xs.map f) =
      (sort (comparable ∘ f) (fun a b => lt (f a) (f b)) xs).map f := by
  rw [sort, sort, List.all_map, insertionSort_map]
  have merged : (xs.mergeSort fun a b => !lt (f b) (f a)).map f =
      (xs.map f).mergeSort fun a b => !lt b a := List.map_mergeSort fun a _ b _ => rfl
  split
  · exact merged.symm
  · rfl

theorem sortDown_map (comparable : β → Bool) (xs : List α) :
    sortDown comparable lt (xs.map f) =
      (sortDown (comparable ∘ f) (fun a b => lt (f a) (f b)) xs).map f := by
  rw [sortDown, ← List.map_reverse, sort_map, ← List.map_reverse, sortDown]

end Map

end Sorting

namespace OrderTerm

theorem map_snd_of_keyed {t : OrderTerm} {rows : List Value}
    {pairs : List (Option SortKey × Value)} (h : t.keyed rows = .ok pairs) :
    pairs.map Prod.snd = rows := by
  induction rows generalizing pairs with
  | nil =>
      cases h
      rfl
  | cons row rest ih =>
      rw [keyed] at h
      split at h
      · cases h
      · obtain ⟨others, ho, rfl⟩ := Outcome.map_eq_ok_iff.mp h
        rw [List.map_cons, ih ho]

theorem sortRows_perm {t : OrderTerm} {rows sorted : List Value}
    (h : t.sortRows rows = .ok sorted) : sorted.Perm rows := by
  obtain ⟨pairs, hk, rfl⟩ := Outcome.map_eq_ok_iff.mp h
  rw [← map_snd_of_keyed hk]
  refine List.Perm.map Prod.snd ?_
  split
  · exact Sorting.sort_perm _ pairs
  · exact Sorting.sortDown_perm _ pairs

section Map

variable {t : OrderTerm} {f : Value → Value} {rows : List Value}
  (keys : ∀ row ∈ rows, t.key? (f row) = t.key? row)

include keys

theorem keyed_map :
    t.keyed (rows.map f) = (t.keyed rows).map (List.map (Prod.map id f)) := by
  induction rows with
  | nil => rfl
  | cons row rest ih =>
      have tail := ih fun other ho => keys other (by simp [ho])
      rw [List.map_cons, keyed, keys row (by simp), keyed, tail]
      cases t.key? row with
      | error fault => rfl
      | ok k => cases t.keyed rest <;> rfl

theorem sortRows_map : t.sortRows (rows.map f) = (t.sortRows rows).map (List.map f) := by
  unfold sortRows
  rw [keyed_map keys]
  cases t.keyed rows with
  | error fault => rfl
  | ok pairs =>
      refine congrArg Except.ok ?_
      have rows_of : List.map Prod.snd ∘ List.map (Prod.map (id : Option SortKey → _) f) =
          List.map f ∘ List.map Prod.snd := by
        rw [List.map_comp_map, List.map_comp_map]
        rfl
      cases t.ascending with
      | true =>
          simp only [if_true]
          rw [Sorting.sort_map]
          exact congrFun rows_of _
      | false =>
          simp only [Bool.false_eq_true, if_false]
          rw [Sorting.sortDown_map]
          exact congrFun rows_of _

end Map

end OrderTerm

theorem orderRows_perm {terms : List OrderTerm} {rows sorted : List Value}
    (h : orderRows terms rows = .ok sorted) : sorted.Perm rows := by
  induction terms generalizing sorted with
  | nil =>
      cases h
      exact .refl rows
  | cons t rest ih =>
      rw [orderRows] at h
      split at h
      · cases h
      · rename_i before hb
        exact (OrderTerm.sortRows_perm h).trans (ih hb)

theorem orderRows_map {terms : List OrderTerm} {f : Value → Value} {rows : List Value}
    (keys : ∀ t ∈ terms, ∀ row ∈ rows, t.key? (f row) = t.key? row) :
    orderRows terms (rows.map f) = (orderRows terms rows).map (List.map f) := by
  induction terms with
  | nil => rfl
  | cons t rest ih =>
      have tail := ih fun other ho => keys other (by simp [ho])
      rw [orderRows, orderRows, tail]
      cases hs : orderRows rest rows with
      | error fault => rfl
      | ok sorted =>
          exact OrderTerm.sortRows_map fun row hr =>
            keys t (by simp) row ((orderRows_perm hs).mem_iff.mp hr)

end TableServer
