import TableServer.Proofs.Column.Path
import TableServer.Proofs.Filter.Bounds
import TableServer.Proofs.Filter.Conditions
import TableServer.Proofs.Filter.LogicTree
import TableServer.Proofs.Query.Pages

/-! Pages by key. The rows up to a bound in a column come first in the order by that column, and
those beyond it follow. Instants are sorted by rounded timestamps but compared exactly, so there
this needs a column in which no two instants are rounded to one timestamp. -/
namespace TableServer

def Value.under (name : String) : Value → Value
  | object members => (Entries.find? ↑name members).getD .null
  | _ => .null

structure PlainColumn (column : String) : Prop where
  nonempty : column.toList ≠ []
  unreserved : column ∉ reservedKeys
  no_logic : Filter.isLogicKey column = false
  undotted : '.' ∉ column.toList
  no_arrow : isPath column = false
  neutral : column.toList.all Grammar.Neutral.isPlain = true
  trimmed : Text.trim column.toList = column.toList

namespace PlainColumn

variable {column : String} (plain : PlainColumn column)
include plain

theorem resolve (members : Members) :
    resolveColumn members column = .ok ((Value.object members).under column) :=
  resolveColumn_of_no_arrow plain.no_arrow members

theorem filtersRows : Parameter.FiltersRows column :=
  ⟨plain.unreserved, .inr plain.undotted⟩

theorem readFilter_eq (expression : List Char) :
    readFilter column.toList expression = Filter.read column.toList expression := by
  have no_logic : (Filter.logicKey? column.toList).isSome = false := plain.no_logic
  simp [readFilter, no_logic]

theorem start_not_blank {c : Char} {rest : List Char} (text : column.toList = c :: rest) :
    Text.isBlank c = false := by
  by_contra blank
  have dropped : Text.trim (c :: rest) = Text.trim rest := by
    simp [Text.trim, Text.trimWhere, Bool.of_not_eq_false blank]
  have whole := congrArg List.length plain.trimmed
  have shorter := Grammar.length_trim_le rest
  rw [text, dropped, List.length_cons] at whole
  omega

theorem readList_eq (middle : List Char) {last : Char}
    (neutral : (middle ++ [last]).all Grammar.Neutral.isPlain = true)
    (bare : '.' ∉ middle ++ [last]) (ends : Text.isBlank last = false) :
    OrderTerm.readList (column.toList ++ '.' :: (middle ++ [last])) =
      (OrderTerm.modify (column.toList ++ '.' :: (middle ++ [last])) ⟨column, true, none⟩
        (middle ++ [last])).map fun t => [t] := by
  obtain ⟨c, rest, text⟩ := List.exists_cons_of_ne_nil plain.nonempty
  have trimmed : Text.trim (column.toList ++ '.' :: (middle ++ [last])) =
      column.toList ++ '.' :: (middle ++ [last]) := by
    have kept := Text.trim_of_ends (plain.start_not_blank text) ends (rest ++ '.' :: middle)
    rw [text]
    simpa using kept
  have all : (column.toList ++ '.' :: (middle ++ [last])).all Grammar.Neutral.isPlain = true := by
    rw [List.all_append, List.all_cons, plain.neutral, neutral]
    rfl
  have parts : Grammar.splitTopLevel ',' (column.toList ++ '.' :: (middle ++ [last])) =
      .ok [column.toList ++ '.' :: (middle ++ [last])] := by
    have alone : ∀ text ∈ [column.toList ++ '.' :: (middle ++ [last])],
        Grammar.Neutral false text := by
      simpa using Grammar.Neutral.of_plain all
    simpa using Grammar.splitTopLevel_intercalate alone
  have words : Text.splitOn '.' (column.toList ++ '.' :: (middle ++ [last])) =
      [column.toList, middle ++ [last]] := by
    rw [Text.splitOn_append plain.undotted, Text.splitOn_of_not_mem bare]
  have name : String.ofList (c :: rest) = column := by rw [← text, String.ofList_toList]
  simp only [OrderTerm.readList, parts, bind, Except.bind, List.mapM_cons, List.mapM_nil,
    OrderTerm.read, trimmed, words]
  rw [text]
  simp only [name, List.foldlM_cons, List.foldlM_nil]
  cases OrderTerm.modify (c :: rest ++ '.' :: (middle ++ [last])) ⟨column, true, none⟩
    (middle ++ [last]) <;> rfl

theorem readList_asc :
    OrderTerm.readList (column ++ ".asc").toList = .ok [⟨column, true, none⟩] := by
  have told := plain.readList_eq ['a', 's'] (by decide) (by decide)
    (by decide : Text.isBlank 'c' = false)
  rw [String.toList_append]
  exact told

theorem readList_desc :
    OrderTerm.readList (column ++ ".desc").toList = .ok [⟨column, false, none⟩] := by
  have told := plain.readList_eq ['d', 'e', 's'] (by decide) (by decide)
    (by decide : Text.isBlank 'c' = false)
  rw [String.toList_append]
  exact told

end PlainColumn

def Comparison.word : Comparison → List Char
  | above => ['g', 't']
  | least => ['g', 't', 'e']
  | below => ['l', 't']
  | most => ['l', 't', 'e']

theorem Filter.read_compares (column : String) {literal : String} {bound : Bound}
    (told : Test.readBound literal.toList = .ok bound) (c : Comparison) :
    Filter.read column.toList (c.word ++ '.' :: literal.toList) =
      .ok (.condition ⟨column, literal, .compares c bound⟩) := by
  have named : c.word = (Test.compares c bound).operator.name.toList := by
    cases c <;> simp [Comparison.word, Test.operator, Operator.name]
  rw [named, ← Filter.expression, Filter.read_expression, Test.read_compares told, Except.map,
    String.ofList_toList, String.ofList_toList]

namespace Query

theorem read_filter (pair : String × String) (filters : Parameter.FiltersRows pair.1) {f : Filter}
    (h : readFilter pair.1.toList pair.2.toList = .ok f) :
    read [pair] none = .ok (.ofScope ⟨[f], [], .whole⟩) := by
  have unselected : ∀ other ∈ [pair], other.1 ≠ "select" := by
    intro other ho he
    obtain rfl := List.mem_singleton.mp ho
    exact filters.1 (by simp [he, reservedKeys])
  have parameter : Parameter.read .everything pair = .ok (.top (.filter f)) := by
    rw [Parameter.read_filter filters, h]
    rfl
  refine read_eq_ok_iff.mpr ⟨.everything, [.top (.filter f)], ?_, ?_, ?_⟩
  · exact readProjection_of_no_select unselected
  · exact Outcome.mapM_cons_eq_ok_iff.mpr ⟨_, _, parameter, rfl, rfl⟩
  · rfl

theorem read_order {value : String} {terms : List OrderTerm}
    (h : OrderTerm.readList value.toList = .ok terms) :
    read [("order", value)] none = .ok (.ofScope ⟨[], terms, .whole⟩) := by
  have parameter : Parameter.read .everything ("order", value) = .ok (.top (.order terms)) := by
    simp only [Parameter.read, readModifier?, h]
    rfl
  refine read_eq_ok_iff.mpr ⟨.everything, [.top (.order terms)], rfl, ?_, ?_⟩
  · exact Outcome.mapM_cons_eq_ok_iff.mpr ⟨_, _, parameter, rfl, rfl⟩
  · rfl

theorem run_order {terms : List OrderTerm} {rows sorted : List Value}
    (objects : ∀ row ∈ rows, row.isObject = true) (h : orderRows terms rows = .ok sorted) :
    (Query.ofScope ⟨[], terms, .whole⟩).run rows = .ok ⟨sorted, rows.length, 0⟩ := by
  have shown : Projection.everything.rows sorted = .ok sorted :=
    Projection.everything_rows fun row hr => objects row ((orderRows_perm h).mem_iff.mp hr)
  refine run_eq_ok_iff.mpr ⟨rows, sorted, sorted, sorted, ?_, ?_, rfl, shown, rfl⟩
  · exact matching_eq_ok_iff.mpr ⟨rows, rows, rfl, rfl, rfl⟩
  · exact ordered_eq_ok_iff.mpr ⟨sorted, h, rfl⟩

/-- Whether a filter of a column keeps a row that is asked for alone. -/
def Keeps (column expression : String) (row : Value) : Prop :=
  answer [(column, expression)] none [row] = .ok ⟨[row], 1, 0⟩

/-- Whether a filter of a column drops a row that is asked for alone. -/
def Drops (column expression : String) (row : Value) : Prop :=
  answer [(column, expression)] none [row] = .ok ⟨[], 0, 0⟩

end Query

namespace PlainColumn

variable {column : String} (plain : PlainColumn column) {literal : String} {bound : Bound}
  (told : Test.readBound literal.toList = .ok bound)
include plain told

theorem answer_compares {c : Comparison} {expression : String}
    (spelled : expression.toList = c.word ++ '.' :: literal.toList) {row : Value}
    (object : row.isObject = true) :
    Query.answer [(column, expression)] none [row] =
      .ok (if bound.holds c (row.under column) then ⟨[row], 1, 0⟩ else ⟨[], 0, 0⟩) := by
  have filter : readFilter column.toList expression.toList =
      .ok (.condition ⟨column, literal, .compares c bound⟩) := by
    rw [plain.readFilter_eq, spelled]
    exact Filter.read_compares column told c
  have read := Query.read_filter (column, expression) plain.filtersRows filter
  refine Query.answer_eq_ok_iff.mpr ⟨_, read, ?_⟩
  have decided : (Filter.condition ⟨column, literal, .compares c bound⟩).holds row =
      .ok (bound.holds c (row.under column)) := by
    cases row with
    | object members =>
        simp only [Filter.holds, Condition.holds, plain.resolve, Except.map, Test.holds]
    | _ => cases object
  have chosen := RowPredicate.chooses_of_eq decided
  refine (Query.run_filters rfl (by simpa using object)).mpr ⟨?_, ?_⟩
  · intro other ho
    obtain rfl := List.mem_singleton.mp ho
    rw [decided, chosen]
  · rw [List.filter_cons, chosen, List.filter_nil]
    split <;> rfl

end PlainColumn

namespace Query

/-- No two instants of a column are rounded to one timestamp. -/
def TimestampsApart (column : String) (rows : List Value) : Prop :=
  ∀ a ∈ rows, ∀ b ∈ rows, ∀ i j, (a.under column).instant? = some i →
    (b.under column).instant? = some j → i.timestamp.place = j.timestamp.place →
      i.epochMicros = j.epochMicros

theorem timestampsApart_of_near {column : String} {rows : List Value}
    (near : ∀ row ∈ rows, ∀ i, (row.under column).instant? = some i →
      -(2 ^ 33 * 1000000) < i.epochMicros ∧ i.epochMicros < 2 ^ 33 * 1000000) :
    TimestampsApart column rows := by
  intro a ha b hb i j hi hj same
  obtain ⟨low_i, high_i⟩ := near a ha i hi
  obtain ⟨low_j, high_j⟩ := near b hb j hj
  rcases lt_trichotomy i.epochMicros j.epochMicros with lt | eq | gt
  · exact absurd same (Double.place_millionths_lt low_i high_j lt).ne
  · exact eq
  · exact absurd same (Double.place_millionths_lt low_j high_i gt).ne'

/-- Every row holds in a column what sorts among itself in the way in which a bound is read. -/
def Holds (column : String) (bound : Bound) (rows : List Value) : Prop :=
  ∀ row ∈ rows, ∃ members v, row = .object members ∧ Entries.find? ↑column members = some v ∧
    bound.Suits v

section Keyset

variable {column literal : String} {bound : Bound} {rows : List Value}

theorem Holds.suits (held : Holds column bound rows) {row : Value} (hr : row ∈ rows) :
    row.isObject = true ∧ bound.Suits (row.under column) := by
  obtain ⟨members, v, rfl, hv, suits⟩ := held row hr
  refine ⟨rfl, ?_⟩
  rwa [Value.under, hv, Option.getD_some]

theorem exists_ordered (plain : PlainColumn column) (held : Holds column bound rows)
    (apart : TimestampsApart column rows) (ascending : Bool) :
    ∃ sorted, orderRows [⟨column, ascending, none⟩] rows = .ok sorted ∧
      sorted.Pairwise fun a b =>
        if ascending then bound.sizeOf (a.under column) ≤ bound.sizeOf (b.under column)
        else bound.sizeOf (b.under column) ≤ bound.sizeOf (a.under column) := by
  have keys : ∀ row ∈ rows, OrderTerm.key? ⟨column, ascending, none⟩ row =
      .ok (some (SortKey.ofValue (row.under column))) := by
    intro row hr
    obtain ⟨members, v, rfl, hv, suits⟩ := held row hr
    have told : (Value.object members).under column = v := by
      rw [Value.under, hv, Option.getD_some]
    simp only [OrderTerm.key?, plain.resolve, told, Except.map]
    cases bound with
    | instant _ =>
        obtain ⟨s, i, rfl, -⟩ := suits
        rfl
    | number _ =>
        obtain ⟨n, q, rfl, -⟩ := suits
        rfl
  have fine : ∀ row ∈ rows, (SortKey.ofValue (row.under column)).isNan = false :=
    fun row hr => Bound.isNan_ofValue (held.suits hr).2
  have told : ∀ a ∈ rows, ∀ b ∈ rows, (SortKey.ofValue (a.under column)).lt
      (SortKey.ofValue (b.under column)) = decide ((SortKey.ofValue (a.under column)).size <
        (SortKey.ofValue (b.under column)).size) :=
    fun a ha b hb => Bound.lt_ofValue (held.suits ha).2 (held.suits hb).2
  obtain ⟨sorted, hs, pairwise⟩ := OrderTerm.exists_sorted keys fine told
  refine ⟨sorted, hs, ?_⟩
  have same {row : Value} := (OrderTerm.sortRows_perm hs).mem_iff (a := row)
  have sizes {a b : Value} (ha : a ∈ sorted) (hb : b ∈ sorted) :=
    Bound.sizeOf_le (held.suits (same.mp ha)).2 (held.suits (same.mp hb)).2
      (apart a (same.mp ha) b (same.mp hb))
  refine pairwise.imp_of_mem fun {a b} ha hb le => ?_
  cases ascending with
  | true => exact sizes ha hb le
  | false => exact sizes hb ha le

/-- An ordering test that holds of all rows before one of which it holds cuts the ordered rows in
two, and the opposite test holds behind the cut. -/
theorem exists_cut (plain : PlainColumn column)
    (told : Test.readBound literal.toList = .ok bound) (held : Holds column bound rows)
    (apart : TimestampsApart column rows) {ascending : Bool} {value : String}
    (order : OrderTerm.readList value.toList = .ok [⟨column, ascending, none⟩])
    (within beyond : Comparison) {inner outer : String}
    (inner_spelled : inner.toList = within.word ++ '.' :: literal.toList)
    (outer_spelled : outer.toList = beyond.word ++ '.' :: literal.toList)
    (opposite : ∀ a, beyond.holdsSize a bound.size = !within.holdsSize a bound.size)
    (down : ∀ a b, (if ascending then a ≤ b else b ≤ a) → within.holdsSize b bound.size = true →
      within.holdsSize a bound.size = true) :
    ∃ front back, answer [("order", value)] none rows = .ok ⟨front ++ back, rows.length, 0⟩ ∧
      (front ++ back).Perm rows ∧
      (∀ row ∈ front, Keeps column inner row ∧ Drops column outer row) ∧
      ∀ row ∈ back, Drops column inner row ∧ Keeps column outer row := by
  obtain ⟨sorted, hs, pairwise⟩ := exists_ordered plain held apart ascending
  have run := run_order (fun row hr => (held.suits hr).1) hs
  have perm := orderRows_perm hs
  let inside (row : Value) : Bool := within.holdsSize (bound.sizeOf (row.under column)) bound.size
  have cut : sorted.filter inside ++ sorted.filter (fun row => !inside row) = sorted :=
    filter_append_filter_not (pairwise.imp fun le => down _ _ le)
  have decided {row : Value} (hr : row ∈ sorted) :
      answer [(column, inner)] none [row] =
          .ok (if inside row then ⟨[row], 1, 0⟩ else ⟨[], 0, 0⟩) ∧
        answer [(column, outer)] none [row] =
          .ok (if !inside row then ⟨[row], 1, 0⟩ else ⟨[], 0, 0⟩) := by
    obtain ⟨object, suits⟩ := held.suits (perm.mem_iff.mp hr)
    rw [plain.answer_compares told inner_spelled object, Bound.holds_eq told suits,
      plain.answer_compares told outer_spelled object, Bound.holds_eq told suits, opposite]
    exact ⟨rfl, rfl⟩
  refine ⟨sorted.filter inside, sorted.filter (fun row => !inside row), ?_, ?_, ?_, ?_⟩
  · rw [cut]
    exact answer_eq_ok_iff.mpr ⟨_, read_order order, run⟩
  · rwa [cut]
  · intro row hr
    obtain ⟨member, holds⟩ := List.mem_filter.mp hr
    obtain ⟨kept, dropped⟩ := decided member
    rw [holds] at kept dropped
    exact ⟨kept, dropped⟩
  · intro row hr
    obtain ⟨member, fails⟩ := List.mem_filter.mp hr
    obtain ⟨dropped, kept⟩ := decided member
    have outside : inside row = false := by simpa using fails
    rw [outside] at dropped kept
    exact ⟨dropped, kept⟩

/-- In the order by a column the rows up to a bound come first and those beyond it follow, in both
directions, where no two instants of the column are rounded to one timestamp. -/
theorem keyset_pages (plain : PlainColumn column)
    (told : Test.readBound literal.toList = .ok bound) (held : Holds column bound rows)
    (apart : TimestampsApart column rows) :
    (∃ front back,
      answer [("order", column ++ ".asc")] none rows = .ok ⟨front ++ back, rows.length, 0⟩ ∧
        (front ++ back).Perm rows ∧
        (∀ row ∈ front, Keeps column ("lte." ++ literal) row ∧
          Drops column ("gt." ++ literal) row) ∧
        ∀ row ∈ back, Drops column ("lte." ++ literal) row ∧
          Keeps column ("gt." ++ literal) row) ∧
    ∃ front back,
      answer [("order", column ++ ".desc")] none rows = .ok ⟨front ++ back, rows.length, 0⟩ ∧
        (front ++ back).Perm rows ∧
        (∀ row ∈ front, Keeps column ("gte." ++ literal) row ∧
          Drops column ("lt." ++ literal) row) ∧
        ∀ row ∈ back, Drops column ("gte." ++ literal) row ∧
          Keeps column ("lt." ++ literal) row := by
  constructor
  · refine exists_cut plain told held apart plain.readList_asc .most .above
      String.toList_append String.toList_append ?_ ?_
    · intro a
      simp [Comparison.holdsSize, ← not_le]
    · intro a b le holds
      exact decide_eq_true (le.trans (of_decide_eq_true holds))
  · refine exists_cut plain told held apart plain.readList_desc .least .below
      String.toList_append String.toList_append ?_ ?_
    · intro a
      simp [Comparison.holdsSize, ← not_le]
    · intro a b le holds
      exact decide_eq_true ((of_decide_eq_true holds).trans le)

end Keyset

def dated (text : String) : Value :=
  .object [("t", .string text)]

theorem plainColumn_t : PlainColumn "t" where
  nonempty := by decide
  unreserved := by decide
  no_logic := by decide
  undotted := by decide
  no_arrow := by decide
  neutral := by decide
  trimmed := by decide

theorem keyset_pages_of_spring_rows :
    Holds "t" (.instant ⟨⟨2024, 5, 1⟩, ⟨0, 0, 0, 1⟩, 0⟩)
        [dated "2024-05-01T00:00:00.000002", dated "2024-05-01"] ∧
      TimestampsApart "t" [dated "2024-05-01T00:00:00.000002", dated "2024-05-01"] ∧
      ∃ front back, answer [("order", "t.asc")] none
          [dated "2024-05-01T00:00:00.000002", dated "2024-05-01"] = .ok ⟨front ++ back, 2, 0⟩ ∧
        (∀ row ∈ front, Keeps "t" "lte.2024-05-01T00:00:00.000001" row) ∧
        ∀ row ∈ back, Keeps "t" "gt.2024-05-01T00:00:00.000001" row := by
  have held : Holds "t" (.instant ⟨⟨2024, 5, 1⟩, ⟨0, 0, 0, 1⟩, 0⟩)
      [dated "2024-05-01T00:00:00.000002", dated "2024-05-01"] := by
    intro row hr
    rcases List.mem_pair.mp hr with rfl | rfl
    · exact ⟨_, _, rfl, rfl, _, ⟨⟨2024, 5, 1⟩, ⟨0, 0, 0, 2⟩, 0⟩, rfl, rfl⟩
    · exact ⟨_, _, rfl, rfl, _, ⟨⟨2024, 5, 1⟩, .midnight, 0⟩, rfl, rfl⟩
  have apart : TimestampsApart "t" [dated "2024-05-01T00:00:00.000002", dated "2024-05-01"] := by
    refine timestampsApart_of_near fun row hr i hi => ?_
    rcases List.mem_pair.mp hr with rfl | rfl
    · obtain rfl : ⟨⟨2024, 5, 1⟩, ⟨0, 0, 0, 2⟩, 0⟩ = i := Option.some.inj hi
      decide
    · obtain rfl : ⟨⟨2024, 5, 1⟩, .midnight, 0⟩ = i := Option.some.inj hi
      decide
  have told : Test.readBound "2024-05-01T00:00:00.000001".toList =
      .ok (.instant ⟨⟨2024, 5, 1⟩, ⟨0, 0, 0, 1⟩, 0⟩) := rfl
  obtain ⟨⟨front, back, ordered, -, within, beyond⟩, -⟩ :=
    keyset_pages plainColumn_t told held apart
  exact ⟨held, apart, front, back, ordered, fun row hr => (within row hr).1,
    fun row hr => (beyond row hr).2⟩

def lateRows : List Value :=
  [dated "9999-12-31T23:59:59.999999", dated "9999-12-31T23:59:59.999998"]

theorem key_dated {text : String} {i : Instant} (h : Instant.read? text.toList = some i) :
    OrderTerm.key? ⟨"t", true, none⟩ (dated text) = .ok (some (.instant i.timestamp)) := by
  simp only [OrderTerm.key?, dated, plainColumn_t.resolve, Except.map]
  simp [Value.under, Entries.find?, SortKey.ofValue, SortKey.ofString, h]

theorem orderRows_lateRows : orderRows [⟨"t", true, none⟩] lateRows = .ok lateRows := by
  have keys : ∀ row ∈ lateRows, OrderTerm.key? ⟨"t", true, none⟩ row =
      .ok (some (.instant (.finite false 8303486592614400 (-15)))) := by
    intro row hr
    rcases List.mem_pair.mp hr with rfl | rfl
    · exact key_dated (i := ⟨⟨9999, 12, 31⟩, ⟨23, 59, 59, 999999⟩, 0⟩) rfl
    · exact key_dated (i := ⟨⟨9999, 12, 31⟩, ⟨23, 59, 59, 999998⟩, 0⟩) rfl
  exact OrderTerm.sortRows_of_tied rfl keys rfl
    (by simp [SortKey.lt, Double.magnitude, Magnitude.lt])

/-- Far from 1970 a row beyond the bound can stand before one within it. -/
theorem late_rows_without_cut :
    PlainColumn "t" ∧
      Holds "t" (.instant ⟨⟨9999, 12, 31⟩, ⟨23, 59, 59, 999998⟩, 0⟩) lateRows ∧
      Test.readBound "9999-12-31T23:59:59.999998".toList =
        .ok (.instant ⟨⟨9999, 12, 31⟩, ⟨23, 59, 59, 999998⟩, 0⟩) ∧
      ¬∃ front back,
        answer [("order", "t.asc")] none lateRows = .ok ⟨front ++ back, lateRows.length, 0⟩ ∧
          (∀ row ∈ front, Keeps "t" "lte.9999-12-31T23:59:59.999998" row) ∧
          ∀ row ∈ back, Drops "t" "lte.9999-12-31T23:59:59.999998" row := by
  have held : Holds "t" (.instant ⟨⟨9999, 12, 31⟩, ⟨23, 59, 59, 999998⟩, 0⟩) lateRows := by
    intro row hr
    rcases List.mem_pair.mp hr with rfl | rfl
    · exact ⟨_, _, rfl, rfl, _, ⟨⟨9999, 12, 31⟩, ⟨23, 59, 59, 999999⟩, 0⟩, rfl, rfl⟩
    · exact ⟨_, _, rfl, rfl, _, ⟨⟨9999, 12, 31⟩, ⟨23, 59, 59, 999998⟩, 0⟩, rfl, rfl⟩
  have told : Test.readBound "9999-12-31T23:59:59.999998".toList =
      .ok (.instant ⟨⟨9999, 12, 31⟩, ⟨23, 59, 59, 999998⟩, 0⟩) := rfl
  refine ⟨plainColumn_t, held, told, ?_⟩
  rintro ⟨front, back, ordered, within, beyond⟩
  have order : answer [("order", "t.asc")] none lateRows = .ok ⟨lateRows, lateRows.length, 0⟩ := by
    refine answer_eq_ok_iff.mpr ⟨_, read_order plainColumn_t.readList_asc, ?_⟩
    exact run_order (fun row hr => (held.suits hr).1) orderRows_lateRows
  have spelled : "lte.9999-12-31T23:59:59.999998".toList =
      Comparison.most.word ++ '.' :: "9999-12-31T23:59:59.999998".toList := rfl
  have decided {row : Value} (hr : row ∈ lateRows) :=
    plainColumn_t.answer_compares told spelled (held.suits hr).1
  have later : Drops "t" "lte.9999-12-31T23:59:59.999998" (dated "9999-12-31T23:59:59.999999") :=
    decided (by simp [lateRows])
  have earlier : Keeps "t" "lte.9999-12-31T23:59:59.999998" (dated "9999-12-31T23:59:59.999998") :=
    decided (by simp [lateRows])
  have parts : front ++ back = lateRows := by
    have same := ordered.symm.trans order
    simp only [Except.ok.injEq, QueryResult.mk.injEq] at same
    exact same.1
  cases front with
  | nil =>
      have dropped := beyond (dated "9999-12-31T23:59:59.999998") (by
        rw [show back = lateRows from parts]
        simp [lateRows])
      have same := earlier.symm.trans dropped
      simp at same
  | cons row rest =>
      obtain ⟨rfl, -⟩ := List.cons.inj parts
      have same := later.symm.trans (within _ (by simp))
      simp at same

end Query

end TableServer
