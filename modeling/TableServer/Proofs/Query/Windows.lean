import Mathlib.Data.List.Permutation
import Mathlib.Data.List.TakeWhile
import TableServer.Proofs.Number.Numeral
import TableServer.Proofs.Query.Parameters

/-! Windows of the rows, told by counts, by a range, or by a range header. The parameters that tell
a window are read apart from all others, wherever they stand among them. -/
namespace TableServer

namespace Window

variable {a b n : Nat}

theorem readCount_numeral (key : String) (h : n < 10 ^ Number.digitLimit) :
    readCount key (numeral n) = .ok n := by
  simp only [readCount, Number.readInteger_numeral h]
  rw [if_neg (by omega)]
  rfl

theorem readDigits_numeral (h : n < 10 ^ Number.digitLimit) : readDigits (numeral n) = .ok n := by
  rw [readDigits, Number.readInteger_numeral h]
  rfl

def rangeOf (a b : Nat) : List Char :=
  numeral a ++ '-' :: numeral b

theorem rangeText?_rangeOf (a b : Nat) :
    rangeText? (rangeOf a b) = some ⟨numeral a, numeral b⟩ := by
  have decimal (n : Nat) : ∀ c ∈ numeral n, Text.isDecimal c = true :=
    fun c hc => (isFigure_of_mem_numeral hc).isDecimal
  have body : (rangeOf a b).dropWhile Text.isBlank = rangeOf a b := by
    obtain ⟨c, rest, hc⟩ := List.exists_cons_of_ne_nil (numeral_ne_nil a)
    have figure : IsFigure c := isFigure_of_mem_numeral (n := a) (by simp [hc])
    simp [rangeOf, hc, figure.not_isBlank]
  have first : (rangeOf a b).takeWhile Text.isDecimal = numeral a := by
    rw [rangeOf, List.takeWhile_append_of_pos (decimal a)]
    simp [show Text.isDecimal '-' = false by decide]
  have behind : (rangeOf a b).dropWhile Text.isDecimal = '-' :: numeral b := by
    rw [rangeOf, List.dropWhile_append_of_pos (decimal a)]
    simp [show Text.isDecimal '-' = false by decide]
  have last : (numeral b).takeWhile Text.isDecimal = numeral b :=
    List.takeWhile_eq_self_iff.mpr (decimal b)
  have none_behind : (numeral b).dropWhile Text.isDecimal = [] :=
    List.dropWhile_eq_nil_iff.mpr (decimal b)
  simp [rangeText?, body, first, behind, last, none_behind, numeral_ne_nil]

theorem ofRange_numerals (text : List Char) (le : a ≤ b) (h : b < 10 ^ Number.digitLimit) :
    ofRange text ⟨numeral a, numeral b⟩ = .ok ⟨some a, some (b - a + 1)⟩ := by
  have filled : (numeral b).isEmpty = false := by simp [numeral_ne_nil]
  simp only [ofRange, readDigits_numeral (Nat.lt_of_le_of_lt le h), readDigits_numeral h, bind,
    Except.bind, filled, Bool.false_eq_true, if_false]
  rw [if_neg (by omega)]
  rfl

theorem readRange_rangeOf (key : String) (le : a ≤ b) (h : b < 10 ^ Number.digitLimit) :
    readRange key (rangeOf a b) = .ok ⟨some a, some (b - a + 1)⟩ := by
  have filled : (numeral b).isEmpty = false := by simp [numeral_ne_nil]
  simp only [readRange, rangeText?_rangeOf, filled, Bool.false_eq_true, if_false]
  exact ofRange_numerals _ le h

theorem readHeader_rangeOf {header : String} (le : a ≤ b) (h : b < 10 ^ Number.digitLimit)
    (told : header.toList = rangeOf a b ∨ header.toList = "items=".toList ++ rangeOf a b) :
    readHeader (some header) = .ok ⟨some a, some (b - a + 1)⟩ := by
  obtain ⟨c, rest, hc⟩ : ∃ c rest, header.toList = c :: rest := by
    rcases told with ht | ht
    · exact List.exists_cons_of_ne_nil (by simp [ht, rangeOf])
    · exact ⟨'i', _, ht⟩
  have unnamed : (Text.dropStart? "items=".toList header.toList).getD header.toList =
      rangeOf a b := by
    rcases told with ht | ht
    · obtain ⟨d, digits, hd⟩ := List.exists_cons_of_ne_nil (numeral_ne_nil a)
      have figure : IsFigure d := isFigure_of_mem_numeral (n := a) (by simp [hd])
      have letter : 'i' ≠ d := by
        rintro rfl
        exact absurd figure.2 (by decide)
      rw [ht, rangeOf, hd]
      simp [Text.dropStart?, letter]
    · rw [ht]
      rfl
  simp only [readHeader, Option.getD_some]
  split
  · rename_i empty
    exact absurd (hc.symm.trans empty) (List.cons_ne_nil c rest)
  · rw [unnamed, rangeText?_rangeOf]
    exact ofRange_numerals _ le h

end Window

def windowKeys : List String :=
  ["limit", "offset", "range"]

namespace Parameter

def isWindow (pair : String × String) : Bool :=
  windowKeys.contains pair.1

/-- Parameters that tell a window of the rows. -/
def tellsWindow : Parameter → Bool
  | .top (.limit _) => true
  | .top (.offset _) => true
  | .top (.window _) => true
  | _ => false

def tell (w : Window) : Parameter → Window
  | .top (.limit n) => { w with limit := some n }
  | .top (.offset n) => { w with offset := some n }
  | .top (.window v) => v
  | _ => w

theorem tellsWindow_of_read {p : Projection} {pair : String × String} {x : Parameter}
    (h : read p pair = .ok x) : x.tellsWindow = isWindow pair := by
  obtain ⟨key, value⟩ := pair
  change x.tellsWindow = windowKeys.contains key
  have unmodified (h : modifierKeys.contains key = false) : windowKeys.contains key = false :=
    contains_eq_false_of_subset (by decide) h
  have unreserved (h : reservedKeys.contains key = false) : windowKeys.contains key = false :=
    unmodified (contains_eq_false_of_subset modifierKeys_subset h)
  cases readAs_of_read h with
  | silent plain => exact (unmodified plain).symm
  | modifier told => cases told <;> rfl
  | filter f plain => exact (unreserved plain).symm
  | embeddedModifier parts => exact (unreserved (not_reserved_of_embeddedKey? parts)).symm
  | embeddedFilter f parts => exact (unreserved (not_reserved_of_embeddedKey? parts)).symm

end Parameter

namespace Query

def withWindow (w : Window) (q : Query) : Query :=
  { q with scope := { q.scope with window := w } }

theorem add_withWindow (x : Parameter) (w : Window) (q : Query) :
    (q.withWindow w).add x =
      if x.tellsWindow then q.withWindow (x.tell w) else (q.add x).withWindow w := by
  cases x with
  | silent => rfl
  | embedded relation c => rfl
  | top c => cases c <;> rfl

theorem foldl_add_withWindow (xs : List Parameter) (w : Window) (q : Query) :
    xs.foldl add (q.withWindow w) =
      ((xs.filter (!·.tellsWindow)).foldl add q).withWindow
        ((xs.filter (·.tellsWindow)).foldl Parameter.tell w) := by
  induction xs generalizing w q with
  | nil => rfl
  | cons x xs ih =>
      rw [List.foldl_cons, add_withWindow]
      cases hx : x.tellsWindow <;> simp [hx, ih]

theorem ofParameters_eq (p : Projection) (xs : List Parameter) :
    ofParameters p xs = (ofParameters p (xs.filter (!·.tellsWindow))).withWindow
      ((xs.filter (·.tellsWindow)).foldl Parameter.tell .whole) :=
  foldl_add_withWindow xs .whole ⟨.empty, [], p⟩

/-- Parameters in which `told` tell a window, in any order, and the others are `pairs`. -/
structure Windowed (pairs told all : List (String × String)) : Prop where
  others : all.filter (!Parameter.isWindow ·) = pairs
  told : (all.filter Parameter.isWindow).Perm told

variable {pairs told all : List (String × String)} {header : Option String} {q : Query}
  {w : Window}

theorem read_of_unwindowed (plain : ∀ pair ∈ pairs, Parameter.isWindow pair = false)
    (h : read pairs none = .ok q) : ∃ p xs, readProjection pairs = .ok p ∧
      pairs.mapM (Parameter.read p) = .ok xs ∧ ofParameters p xs = q ∧ q.withWindow .whole = q := by
  obtain ⟨p, xs, hp, hx, hq⟩ := read_eq_ok_iff.mp h
  have untold : xs.filter (·.tellsWindow) = [] := by
    refine List.filter_eq_nil_iff.mpr fun x hm => ?_
    obtain ⟨pair, hm, hr⟩ := Outcome.exists_of_mem_mapM hx hm
    simp [Parameter.tellsWindow_of_read hr, plain pair hm]
  have whole := ofParameters_eq p xs
  rw [untold] at whole
  have window : (ofParameters p xs).scope.window = .whole := by
    rw [whole]
    rfl
  rw [withHeader, if_pos window] at hq
  cases hq
  exact ⟨p, xs, hp, hx, by rw [← window], rfl⟩

theorem read_header (plain : ∀ pair ∈ pairs, Parameter.isWindow pair = false)
    (h : read pairs none = .ok q) (hw : Window.readHeader header = .ok w) :
    read pairs header = .ok (q.withWindow w) := by
  obtain ⟨p, xs, hp, hx, rfl, whole⟩ := read_of_unwindowed plain h
  refine read_eq_ok_iff.mpr ⟨p, xs, hp, hx, ?_⟩
  rw [withHeader, if_pos (by rw [← whole]; rfl), hw]
  rfl

/-- A window that parameters tell is put into the query that the others spell. The header is not
read then. -/
theorem read_windowed (h : read (all.filter (!Parameter.isWindow ·)) none = .ok q)
    {xs : List Parameter}
    (told : ∀ p, (all.filter Parameter.isWindow).mapM (Parameter.read p) = .ok xs)
    (hw : xs.foldl Parameter.tell .whole = w) (bounded : w ≠ .whole) (header : Option String) :
    read all header = .ok (q.withWindow w) := by
  have plain : ∀ pair ∈ all.filter (!Parameter.isWindow ·), Parameter.isWindow pair = false := by
    intro pair hm
    simpa using (List.mem_filter.mp hm).2
  obtain ⟨p, others, hp, ho, rfl, -⟩ := read_of_unwindowed plain h
  obtain ⟨out, hout, rfl, rfl⟩ :=
    Outcome.mapM_of_filters (fun _ _ hr => Parameter.tellsWindow_of_read hr) ho (told p)
  have read_all : ofParameters p out =
      (ofParameters p (out.filter (!·.tellsWindow))).withWindow w := by
    rw [← hw]
    exact ofParameters_eq p out
  have selects (pair : String × String) (he : pair.1 = "select") :
      (!Parameter.isWindow pair) = true := by
    rw [Parameter.isWindow, he]
    rfl
  refine read_eq_ok_iff.mpr ⟨p, out, (readProjection_filter selects all).symm.trans hp, hout, ?_⟩
  rw [read_all, withHeader]
  exact if_neg bounded

theorem Windowed.read_counts {a n : Nat}
    (h : Windowed pairs [("offset", toString a), ("limit", toString n)] all)
    (hq : read pairs none = .ok q) (ha : a < 10 ^ Number.digitLimit)
    (hn : n < 10 ^ Number.digitLimit) (header : Option String) :
    read all header = .ok (q.withWindow ⟨some a, some n⟩) := by
  have offset (p : Projection) :
      Parameter.read p ("offset", toString a) = .ok (.top (.offset a)) := by
    change ((Window.readCount "offset" (numeral a)).map Clause.offset).map Parameter.top = _
    rw [Window.readCount_numeral "offset" ha]
    rfl
  have limit (p : Projection) : Parameter.read p ("limit", toString n) = .ok (.top (.limit n)) := by
    change ((Window.readCount "limit" (numeral n)).map Clause.limit).map Parameter.top = _
    rw [Window.readCount_numeral "limit" hn]
    rfl
  have bounded : (⟨some a, some n⟩ : Window) ≠ .whole := by simp [Window.whole]
  obtain ⟨rfl, told⟩ := h
  rcases List.perm_pair.mp told with ht | ht
  · have parts (p : Projection) : (all.filter Parameter.isWindow).mapM (Parameter.read p) =
        .ok [.top (.offset a), .top (.limit n)] := by
      rw [ht, List.mapM_cons, List.mapM_cons, offset, limit]
      rfl
    exact read_windowed hq parts rfl bounded header
  · have parts (p : Projection) : (all.filter Parameter.isWindow).mapM (Parameter.read p) =
        .ok [.top (.limit n), .top (.offset a)] := by
      rw [ht, List.mapM_cons, List.mapM_cons, offset, limit]
      rfl
    exact read_windowed hq parts rfl bounded header

theorem Windowed.read_range {a b : Nat} {text : String}
    (h : Windowed pairs [("range", text)] all) (ht : text.toList = Window.rangeOf a b)
    (hq : read pairs none = .ok q) (le : a ≤ b) (hb : b < 10 ^ Number.digitLimit)
    (header : Option String) :
    read all header = .ok (q.withWindow ⟨some a, some (b - a + 1)⟩) := by
  have range (p : Projection) :
      Parameter.read p ("range", text) = .ok (.top (.window ⟨some a, some (b - a + 1)⟩)) := by
    change ((Window.readRange "range" text.toList).map Clause.window).map Parameter.top = _
    rw [ht, Window.readRange_rangeOf "range" le hb]
    rfl
  have bounded : (⟨some a, some (b - a + 1)⟩ : Window) ≠ .whole := by simp [Window.whole]
  obtain ⟨rfl, told⟩ := h
  have parts (p : Projection) : (all.filter Parameter.isWindow).mapM (Parameter.read p) =
      .ok [.top (.window ⟨some a, some (b - a + 1)⟩)] := by
    rw [List.perm_singleton.mp told, List.mapM_cons, range]
    rfl
  exact read_windowed hq parts rfl bounded header

end Query

end TableServer
