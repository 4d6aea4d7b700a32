import TableServer.Filter.Operand
import TableServer.Proofs.Column.Path
import TableServer.Proofs.Filter.Conditions
import TableServer.Proofs.Value.Extent

/-! Containment of arrays and of objects. The literal of a test is decoded to the texts of its items
or to its members, which are what a value is judged by, so that a value and a literal of another one
can change their places. -/
namespace TableServer

open Value

namespace Collection

theorem subset_iff {texts others : List Codes} :
    subset texts others = true ↔ ∀ text ∈ texts, text ∈ others := by
  simp [subset]

theorem meets_array_iff {texts : List Codes} {members : Option Members}
    {items : List Value} :
    meets ⟨some texts, members⟩ (.array items) = true ↔
      ∃ text ∈ texts, text ∈ items.map Value.text := by
  simp only [meets, List.any_eq_true, List.contains_iff_mem, List.mem_map]
  constructor
  · rintro ⟨item, member, listed⟩
    exact ⟨item.text, listed, item, member, rfl⟩
  · rintro ⟨_, listed, item, member, rfl⟩
    exact ⟨item, member, listed⟩

theorem meets_comm {members others : Option Members} (as bs : List Value) :
    meets ⟨some (as.map Value.text), members⟩ (.array bs) =
      meets ⟨some (bs.map Value.text), others⟩ (.array as) := by
  rw [Bool.eq_iff_iff, meets_array_iff, meets_array_iff]
  exact exists_congr fun text => and_comm

end Collection

namespace Test

theorem decodeLiteral_of_read {literal : List Char} {v : Value}
    (h : Value.read (.ofChars literal) = .ok v) :
    decodeLiteral literal = .ok (some v) := by
  rw [decodeLiteral, h]

theorem read_emptyBraces : Value.read (.ofChars ['\x7b', '\x7d']) = .ok (.object []) := by
  rw [Codes.ofChars_cons, read_of_unmarked (by decide), readText_eq_ok_iff, skip_of_shown rfl,
    valueAt_object]
  exact ⟨[], rfl, rfl⟩

theorem readCollection_of_array {literal : List Char} {items : List Value}
    (h : Value.read (.ofChars literal) = .ok (.array items)) :
    readCollection literal = .ok ⟨some (items.map Value.text), none⟩ := by
  obtain ⟨-, trimmed⟩ := read_trim h (.inl rfl)
  have filled : Text.trim literal ≠ ['\x7b', '\x7d'] := by
    intro braces
    rw [braces, read_emptyBraces] at trimmed
    cases trimmed
  rw [readCollection, if_neg filled, decodeLiteral_of_read trimmed]
  rfl

theorem readCollection_of_object {literal : List Char} {members : Members}
    (h : Value.read (.ofChars literal) = .ok (.object members)) :
    ∃ elements, readCollection literal = .ok ⟨elements, some members⟩ := by
  obtain ⟨-, trimmed⟩ := read_trim h (.inr rfl)
  by_cases braces : Text.trim literal = ['\x7b', '\x7d']
  · rw [braces, read_emptyBraces] at trimmed
    cases trimmed
    exact ⟨some [], by rw [readCollection, if_pos braces]⟩
  · refine ⟨none, ?_⟩
    rw [readCollection, if_neg braces, decodeLiteral_of_read trimmed]
    rfl

theorem readAgrees_of_object {literal : List Char} {members : Members}
    (h : Value.read (.ofChars literal) = .ok (.object members)) :
    readAgrees literal = .ok (.agrees members) := by
  rw [readAgrees, decodeLiteral_of_read h]
  rfl

end Test

namespace Filter

/-- Every row whose column holds the value is answered so by the condition on this column. -/
def Judged (operator : Operator) (literal : List Char) (v : Value) (answer : Bool) : Prop :=
  ∀ (column : List Char) (members : Members),
    resolveColumn members (String.ofList column) = .ok v →
      Answers column (expression operator literal) (.object members) answer

theorem judged_iff {operator : Operator} {literal : List Char} {test : Test} {v : Value}
    {answer : Bool} (told : Test.read operator literal = .ok test) :
    Judged operator literal v answer ↔ test.holds v = answer := by
  constructor
  · intro judged
    have held : resolveColumn [("value", v)] (String.ofList "value".toList) = .ok v := rfl
    have answers := (answers_expression_iff told).mp (judged "value".toList [("value", v)] held)
    rw [held] at answers
    exact Except.ok.inj answers
  · rintro rfl column members held
    exact answers_expression told held

section Duality

variable {first second : List Char} {as bs : List Value} {members others : Members}

theorem reads_array {items : List Value} {literal : List Char}
    (h : Value.read (.ofChars literal) = .ok (.array items)) :
    Test.read .contains literal = .ok (.contains ⟨some (items.map Value.text), none⟩) ∧
      Test.read .containedBy literal = .ok (.containedBy ⟨some (items.map Value.text), none⟩) ∧
        Test.read .overlaps literal = .ok (.overlaps ⟨some (items.map Value.text), none⟩) := by
  simp only [Test.read, Test.readCollection_of_array h, Except.map, and_self]

theorem judged_contains_array (hb : Value.read (.ofChars second) = .ok (.array bs))
    {answer : Bool} :
    Judged .contains second (.array as) answer ↔
      Collection.subset (bs.map Value.text) (as.map Value.text) = answer :=
  judged_iff (reads_array hb).1

theorem judged_containedBy_array (hb : Value.read (.ofChars second) = .ok (.array bs))
    {answer : Bool} :
    Judged .containedBy second (.array as) answer ↔
      Collection.subset (as.map Value.text) (bs.map Value.text) = answer :=
  judged_iff (reads_array hb).2.1

theorem judged_overlaps_array (hb : Value.read (.ofChars second) = .ok (.array bs))
    {answer : Bool} :
    Judged .overlaps second (.array as) answer ↔
      Collection.meets ⟨some (bs.map Value.text), none⟩ (.array as) = answer :=
  judged_iff (reads_array hb).2.2

theorem overlaps_of_contains (hb : Value.read (.ofChars second) = .ok (.array bs))
    (filled : bs ≠ [])
    (h : Judged .contains second (.array as) true) : Judged .overlaps second (.array as) true := by
  obtain ⟨item, items, rfl⟩ := List.exists_cons_of_ne_nil filled
  rw [judged_contains_array hb, Collection.subset_iff] at h
  rw [judged_overlaps_array hb, Collection.meets_array_iff]
  have listed : item.text ∈ (item :: items).map Value.text := by simp
  exact ⟨item.text, listed, h item.text listed⟩

theorem contains_and_containedBy_iff (hb : Value.read (.ofChars second) = .ok (.array bs)) :
    Judged .contains second (.array as) true ∧ Judged .containedBy second (.array as) true ↔
      ∀ text, text ∈ as.map Value.text ↔ text ∈ bs.map Value.text := by
  rw [judged_contains_array hb, judged_containedBy_array hb, Collection.subset_iff,
    Collection.subset_iff]
  constructor
  · rintro ⟨contained, contains⟩ text
    exact ⟨contains text, contained text⟩
  · intro same
    exact ⟨fun text => (same text).mpr, fun text => (same text).mp⟩

theorem judged_contains_object (hb : Value.read (.ofChars second) = .ok (.object others))
    {answer : Bool} :
    Judged .contains second (.object members) answer ↔
      Collection.within others members = answer := by
  obtain ⟨elements, told⟩ := Test.readCollection_of_object hb
  have read : Test.read .contains second = .ok (.contains ⟨elements, some others⟩) := by
    rw [Test.read, told, Except.map]
  rw [judged_iff read]
  cases elements <;> rfl

theorem judged_containedBy_object (hb : Value.read (.ofChars second) = .ok (.object others))
    {answer : Bool} :
    Judged .containedBy second (.object members) answer ↔
      Collection.within members others = answer := by
  obtain ⟨elements, told⟩ := Test.readCollection_of_object hb
  have read : Test.read .containedBy second = .ok (.containedBy ⟨elements, some others⟩) := by
    rw [Test.read, told, Except.map]
  rw [judged_iff read]
  cases elements <;> rfl

theorem judged_agrees_object (hb : Value.read (.ofChars second) = .ok (.object others))
    {answer : Bool} :
    Judged .agrees second (.object members) answer ↔
      Collection.within others members = answer := by
  have read : Test.read .agrees second = .ok (.agrees others) := Test.readAgrees_of_object hb
  exact judged_iff read

/-- An array contains another one exactly where the other is contained in it, arrays overlap in both
directions, and mutual containment is equality of the sets of element texts. An object contains
another one exactly where the other is contained in it, and where it matches it. -/
theorem containment_dual (first second : List Char) :
    (∀ as bs : List Value,
      Value.read (.ofChars first) = .ok (.array as) →
      Value.read (.ofChars second) = .ok (.array bs) →
        (∃ answer, Judged .contains second (.array as) answer ∧
          Judged .containedBy first (.array bs) answer) ∧
        (∃ answer, Judged .overlaps second (.array as) answer ∧
          Judged .overlaps first (.array bs) answer) ∧
        (bs ≠ [] → Judged .contains second (.array as) true →
          Judged .overlaps second (.array as) true) ∧
        (Judged .contains second (.array as) true ∧ Judged .containedBy second (.array as) true ↔
          ∀ text, text ∈ as.map Value.text ↔ text ∈ bs.map Value.text)) ∧
    ∀ members others : Members,
      Value.read (.ofChars first) = .ok (.object members) →
      Value.read (.ofChars second) = .ok (.object others) →
        (∃ answer, Judged .contains second (.object members) answer ∧
          Judged .containedBy first (.object others) answer) ∧
        ∃ answer, Judged .agrees second (.object members) answer ∧
          Judged .contains second (.object members) answer := by
  constructor
  · intro as bs ha hb
    refine ⟨⟨_, (judged_contains_array hb).mpr rfl, (judged_containedBy_array ha).mpr rfl⟩,
      ⟨_, (judged_overlaps_array hb).mpr rfl, ?_⟩, overlaps_of_contains hb,
      contains_and_containedBy_iff hb⟩
    exact (judged_overlaps_array ha).mpr (Collection.meets_comm as bs)
  · intro members others ha hb
    exact ⟨⟨_, (judged_contains_object hb).mpr rfl, (judged_containedBy_object ha).mpr rfl⟩,
      _, (judged_agrees_object hb).mpr rfl, (judged_contains_object hb).mpr rfl⟩

end Duality

theorem read_oneAndText :
    Value.read " [1,\"1\"]" = .ok (.array [.ofInt 1, .string "1"]) ∧
      Value.read "[\"1\"]" = .ok (.array [.string "1"]) := by
  have number : valueAt "1,\"1\"]" = .ok (.ofInt 1, ",\"1\"]") :=
    (valueAt_scalar (by decide) (by decide) (by decide) _).trans rfl
  have text : valueAt "\"1\"]" = .ok (.string "1", "]") := by
    obtain ⟨shorter, told⟩ := (isLiteral_escaped "1").readValue_append "]"
    have spelt : Codes.ofString "\"1\"]" =
        .ofChars ('"' :: ("1".toList.flatMap escapeChar ++ ['"'])) ++ .ofString "]" := by decide
    rw [spelt, valueAt, told]
    rfl
  have last : itemsAt "\"1\"]" = .ok ([.string "1"], []) := by
    rw [itemsAt_eq, text]
    rfl
  have both : itemsAt "1,\"1\"]" = .ok ([.ofInt 1, .string "1"], []) := by
    rw [itemsAt_eq, number]
    change (itemsAt "\"1\"]").map _ = _
    rw [last]
    rfl
  constructor
  · refine (read_of_unmarked (by decide) _).trans (readText_eq_ok_iff.mpr ⟨[], ?_, rfl⟩)
    refine (valueAt_array _).trans ?_
    change (itemsAt "1,\"1\"]").map _ = _
    rw [both]
    rfl
  · refine (read_of_unmarked (by decide) _).trans (readText_eq_ok_iff.mpr ⟨[], ?_, rfl⟩)
    refine (valueAt_array _).trans ?_
    change (itemsAt "\"1\"]").map _ = _
    rw [last]
    rfl

theorem containment_dual_of_oneAndText :
    Judged .contains "[\"1\"]".toList (.array [.ofInt 1, .string "1"]) true ∧
      Judged .overlaps "[\"1\"]".toList (.array [.ofInt 1, .string "1"]) true ∧
      (∃ answer, Judged .contains "[\"1\"]".toList (.array [.ofInt 1, .string "1"]) answer ∧
        Judged .containedBy " [1,\"1\"]".toList (.array [.string "1"]) answer) ∧
      ∃ answer, Judged .contains "\x7b\x7d".toList (.object [("a", .ofInt 1)]) answer ∧
        Judged .containedBy "\x7b\"a\":1\x7d".toList (.object []) answer := by
  obtain ⟨both, single⟩ := read_oneAndText
  obtain ⟨dual, -, overlaps, mutual_iff⟩ := (containment_dual _ _).1 _ _ both single
  have one : (Value.ofInt 1).text = "1" := by decide
  have text : (Value.string "1").text = "1" := rfl
  obtain ⟨contains, -⟩ := mutual_iff.mpr (by simp [one, text])
  have object : Value.read "\x7b\"a\":1\x7d" = .ok (.object [("a", .ofInt 1)]) := by
    refine (read_of_unmarked (by decide) _).trans
      (@readText_member ['a'] ['a', '"', ':', '1', '\x7d'] fun start => ?_)
    simp [readString, Except.map, CodePoint.toNat]
  obtain ⟨dual', -⟩ := (containment_dual _ _).2 _ _ object Test.read_emptyBraces
  exact ⟨contains, overlaps (by decide) contains, dual, dual'⟩

end Filter

end TableServer
