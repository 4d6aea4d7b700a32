import TableServer.Proofs.Filter.Conditions
import TableServer.Proofs.Outcome
import TableServer.Proofs.Value.StringReader

/-! Lists of quoted items. Items written as literals of strings are found again between the commas,
whatever they hold. In braces they are the same operand as in brackets, since without a colon no
literal is the name of a member. -/
namespace TableServer

def enclosed (opener closer : Char) (items : List (List Char)) : List Char :=
  opener :: (List.intercalate [','] items ++ [closer])

theorem trim_enclosed {opener closer : Char} (first : Text.isBlank opener = false)
    (last : Text.isBlank closer = false) (items : List (List Char)) :
    Text.trim (enclosed opener closer items) = enclosed opener closer items :=
  Text.trim_of_ends first last _

section

open Value

variable {s : String} {literal : List Char} {texts : List String} {literals : List (List Char)}

namespace Value

theorem IsLiteral.intercalate_eq_cons (h : IsLiteral s literal) (literals : List (List Char)) :
    ∃ tail, List.intercalate [','] (literal :: literals) = '"' :: tail := by
  obtain ⟨pieces, -, rfl⟩ := h
  cases literals with
  | nil => exact ⟨_, List.intercalate_singleton⟩
  | cons next rest => exact ⟨_, List.intercalate_cons_cons⟩

theorem neutral_of_literals (h : List.Forall₂ IsLiteral texts literals) :
    ∀ literal ∈ literals, Grammar.Neutral false literal := by
  induction h with
  | nil => exact List.forall_mem_nil _
  | cons head _ ih => exact List.forall_mem_cons.mpr ⟨head.neutral, ih⟩

theorem readItems_of_literals (h : List.Forall₂ IsLiteral texts literals) (more : texts ≠ [])
    (rest : Codes) : ∃ shorter,
      readItems (.ofChars (List.intercalate [','] literals) ++ .char ']' :: rest) =
        .ok (texts.map fun s => .string (.ofString s), ⟨rest, shorter⟩) := by
  induction h with
  | nil => exact absurd rfl more
  | @cons s literal texts literals head behind ih =>
      cases behind with
      | nil =>
          obtain ⟨shorter, told⟩ := head.readValue_append (.char ']' :: rest)
          rw [List.intercalate_singleton]
          refine ⟨(Nat.lt_succ_self _).trans shorter, ?_⟩
          unfold readItems
          rw [told]
          rfl
      | @cons s' literal' texts literals next behind =>
          obtain ⟨tail, quote⟩ := next.intercalate_eq_cons literals
          obtain ⟨shorter, told⟩ :=
            head.readValue_append (.char ',' :: .char '"' :: (Codes.ofChars tail ++ .char ']' :: rest))
          rw [quote, Codes.ofChars_cons, List.cons_append] at ih
          obtain ⟨shorter', others⟩ := ih (List.cons_ne_nil _ _)
          rw [List.intercalate_cons_cons, List.append_assoc, Codes.ofChars_append,
            List.singleton_append, quote, List.append_assoc, Codes.ofChars_cons,
            Codes.ofChars_cons, List.cons_append, List.cons_append]
          refine ⟨(shorter'.trans (Nat.lt_succ_self _)).trans shorter, ?_⟩
          unfold readItems
          rw [told]
          dsimp only
          split
          · rename_i bracket
            cases bracket
          · rename_i comma
            cases comma
            split
            · rename_i failed
              cases others.symm.trans failed
            · rename_i told'
              cases others.symm.trans told'
              rfl
          · rename_i no_comma
            exact absurd rfl (no_comma _)

theorem readMembers_of_literals (h : IsLiteral s literal) (literals : List (List Char))
    (rest : Codes) : ∃ tail,
      readMembers (.ofChars (List.intercalate [','] (literal :: literals)) ++ .char '\x7d' :: rest) =
        .error (.malformed .expectedColon tail) := by
  cases literals with
  | nil =>
      rw [List.intercalate_singleton]
      refine ⟨.char '\x7d' :: rest, ?_⟩
      rw [readMembers, h.readName_append (by decide) (by decide)]
  | cons next literals =>
      rw [List.intercalate_cons_cons, List.append_assoc, Codes.ofChars_append,
        List.singleton_append, Codes.ofChars_cons, List.append_assoc, List.cons_append]
      refine ⟨.char ',' ::
        (Codes.ofChars (List.intercalate [','] (next :: literals)) ++ .char '\x7d' :: rest), ?_⟩
      rw [readMembers, h.readName_append (by decide) (by decide)]

theorem read_brackets (h : List.Forall₂ IsLiteral texts literals) (more : texts ≠ []) :
    read (.ofChars (enclosed '[' ']' literals)) =
      .ok (.array (texts.map fun s => .string (.ofString s))) := by
  have items := readItems_of_literals h more []
  cases h with
  | nil => exact absurd rfl more
  | @cons s literal texts literals head behind =>
      obtain ⟨tail, quote⟩ := head.intercalate_eq_cons literals
      rw [quote, Codes.ofChars_cons, List.cons_append] at items
      obtain ⟨shorter, items⟩ := items
      rw [enclosed, quote, List.cons_append, Codes.ofChars_cons, Codes.ofChars_cons,
        Codes.ofChars_append]
      refine read_of_readValue (by decide) (by decide) ⟨by simp, ?_⟩
      rw [readValue]
      split
      · rename_i bracket
        cases bracket
      · split
        · rename_i failed
          cases items.symm.trans failed
        · rename_i told
          cases items.symm.trans told
          rfl

theorem read_braces (h : IsLiteral s literal) (literals : List (List Char)) :
    ∃ tail, read (.ofChars (enclosed '\x7b' '\x7d' (literal :: literals))) =
      .error (.malformed .expectedColon tail) := by
  obtain ⟨behind, members⟩ := readMembers_of_literals h literals []
  obtain ⟨tail, quote⟩ := h.intercalate_eq_cons literals
  rw [quote, Codes.ofChars_cons, List.cons_append] at members
  rw [enclosed, quote, List.cons_append, Codes.ofChars_cons, Codes.ofChars_cons,
    Codes.ofChars_append]
  refine ⟨behind, read_of_readValue_error (by decide) (by decide) ?_⟩
  rw [readValue]
  split
  · rename_i brace
    cases brace
  · split
    · rename_i failed
      cases members.symm.trans failed
      rfl
    · rename_i told
      cases members.symm.trans told

end Value

namespace Grammar

theorem unquote_literal (h : IsLiteral s literal) : unquote literal = s := by
  have told := h.read_eq
  obtain ⟨pieces, -, rfl⟩ := h
  have trimmed : Text.trim ('"' :: (pieces.flatten ++ ['"'])) = _ :=
    Text.trim_of_ends (by decide) (by decide) pieces.flatten
  simp only [unquote, trimmed, inside?_append, told]

theorem listItems_of_literals (h : List.Forall₂ IsLiteral texts literals) :
    listItems (List.intercalate [','] literals) = .ok (texts.map .ofString) := by
  have each : List.Forall₂ (fun s literal => Codes.ofString s = unquote literal) texts literals :=
    h.imp fun s literal told => (unquote_literal told).symm
  have unquoted : literals.map unquote = texts.map .ofString := by
    rw [← List.forall₂_map_right_iff, ← List.forall₂_map_left_iff, List.forall₂_eq_eq_eq] at each
    exact each.symm
  have neutral := neutral_of_literals h
  cases h with
  | nil => rfl
  | @cons s literal texts literals head _ =>
      obtain ⟨tail, quote⟩ := head.intercalate_eq_cons literals
      have shown : (Text.trim (List.intercalate [','] (literal :: literals))).isEmpty = false := by
        rw [quote, List.isEmpty_eq_false_iff]
        exact Text.trim_cons_ne_nil (by decide) tail
      rw [listItems, shown, splitTopLevel_intercalate neutral, if_neg Bool.false_ne_true,
        Except.map, unquoted]

end Grammar

namespace Test

theorem readOneOf_of_literals (h : List.Forall₂ IsLiteral texts literals) :
    readOneOf (enclosed '(' ')' literals) = .ok (.oneOf (texts.map .ofString)) := by
  rw [readOneOf, enclosed, Grammar.unwrap_wrapped]
  change Except.bind (Grammar.listItems (List.intercalate [','] literals)) _ = _
  rw [Grammar.listItems_of_literals h]
  rfl

theorem readCollection_brackets (h : List.Forall₂ IsLiteral texts literals) (more : texts ≠ []) :
    readCollection (enclosed '[' ']' literals) = .ok ⟨some (texts.map .ofString), none⟩ := by
  have decoded : decodeLiteral (enclosed '[' ']' literals) =
      .ok (some (.array (texts.map fun s => .string (.ofString s)))) := by
    rw [decodeLiteral, read_brackets h more]
  have same : (texts.map fun s => Value.string (.ofString s)).map Value.text =
      texts.map .ofString := List.map_map
  have marks : enclosed '[' ']' literals ≠ ['\x7b', '\x7d'] :=
    fun h => absurd (List.cons_eq_cons.mp h).1 (by decide)
  rw [readCollection, trim_enclosed (by decide) (by decide), if_neg marks, decoded]
  exact congrArg (fun items => Except.ok (Collection.mk (some items) none)) same

theorem readCollection_braces (h : List.Forall₂ IsLiteral texts literals) (more : texts ≠ []) :
    readCollection (enclosed '\x7b' '\x7d' literals) = .ok ⟨some (texts.map .ofString), none⟩ := by
  have items := Grammar.listItems_of_literals h
  cases h with
  | nil => exact absurd rfl more
  | @cons s literal texts literals head behind =>
      obtain ⟨tail, failed⟩ := read_braces head literals
      obtain ⟨body, quote⟩ := head.intercalate_eq_cons literals
      have decoded : decodeLiteral (enclosed '\x7b' '\x7d' (literal :: literals)) = .ok none := by
        rw [decodeLiteral, failed]
      have marks : enclosed '\x7b' '\x7d' (literal :: literals) ≠ ['\x7b', '\x7d'] := by
        rw [enclosed, quote]
        simp
      rw [readCollection, trim_enclosed (by decide) (by decide), if_neg marks, decoded]
      change Except.bind (Grammar.unwrap '\x7b' '\x7d' "array operators" _) _ = _
      rw [enclosed, Grammar.unwrap_wrapped]
      change Except.bind (Grammar.listItems _) _ = _
      rw [items]
      rfl

end Test

namespace Filter

theorem read_of_same_test {column literal literal' : List Char} {operator : Operator} {test : Test}
    (told : Test.read operator literal = .ok test)
    (told' : Test.read operator literal' = .ok test) :
    ∃ f g, read column (expression operator literal) = .ok f ∧
      read column (expression operator literal') = .ok g ∧ ∀ row, f.holds row = g.holds row := by
  refine ⟨.condition ⟨String.ofList column, String.ofList literal, test⟩,
    .condition ⟨String.ofList column, String.ofList literal', test⟩, ?_, ?_, fun row => ?_⟩
  · rw [read_expression, told, Except.map]
  · rw [read_expression, told', Except.map]
  · cases row <;> rfl

/-- A list of literals decodes to the strings they are of. A row is in it by the text of its value,
as it is by one of the equality tests; and braces around the list are as good as brackets. -/
theorem quoted_list_decodes (column : List Char) (h : List.Forall₂ IsLiteral texts literals) :
    (∃ f, read column (expression .oneOf (enclosed '(' ')' literals)) = .ok f ∧ ∀ members,
      f.holds (.object members) =
          (resolveColumn members (String.ofList column)).map
            (fun v => decide (v.text ∈ texts.map Codes.ofString)) ∧
        (f.holds (.object members) = .ok true ↔ ∃ s ∈ texts,
          Answers column (expression .eq s.toList) (.object members) true)) ∧
    (texts ≠ [] → ∃ operand : Collection,
      operand.elements = some (texts.map .ofString) ∧ operand.members = none ∧
      Test.readCollection (enclosed '\x7b' '\x7d' literals) = .ok operand ∧
      Test.readCollection (enclosed '[' ']' literals) = .ok operand ∧
      ∀ operator ∈ [.contains, .containedBy, .overlaps], ∃ f g,
        read column (expression operator (enclosed '\x7b' '\x7d' literals)) = .ok f ∧
        read column (expression operator (enclosed '[' ']' literals)) = .ok g ∧
        ∀ row, f.holds row = g.holds row) := by
  refine ⟨?_, fun more => ?_⟩
  · have told : Test.read .oneOf (enclosed '(' ')' literals) = .ok (.oneOf (texts.map .ofString)) :=
      Test.readOneOf_of_literals h
    refine ⟨_, by rw [read_expression, told, Except.map], fun members => ?_⟩
    have answer : (Filter.condition ⟨String.ofList column,
        String.ofList (enclosed '(' ')' literals), .oneOf (texts.map .ofString)⟩).holds
          (.object members) =
          (resolveColumn members (String.ofList column)).map fun v =>
            decide (v.text ∈ texts.map Codes.ofString) := by
      rw [holds, Condition.holds]
      congr 1
      funext v
      rw [Test.holds, List.contains_eq_mem]
    refine ⟨answer, ?_⟩
    have equals (s : String) : Answers column (expression .eq s.toList) (.object members) true ↔
        ∃ v, resolveColumn members (String.ofList column) = .ok v ∧ v.text = .ofString s := by
      have read : Test.read .eq s.toList = .ok (.equals s) := by
        rw [Test.read, String.ofList_toList]
      rw [answers_expression_iff read, Outcome.map_eq_ok_iff]
      simp only [Test.holds, decide_eq_true_eq]
    simp only [answer, equals, Outcome.map_eq_ok_iff, decide_eq_true_eq, List.mem_map]
    constructor
    · rintro ⟨v, held, s, listed, same⟩
      exact ⟨s, listed, v, held, same.symm⟩
    · rintro ⟨s, listed, v, held, same⟩
      exact ⟨v, held, s, listed, same.symm⟩
  · have braces := Test.readCollection_braces h more
    have brackets := Test.readCollection_brackets h more
    refine ⟨⟨some (texts.map .ofString), none⟩, rfl, rfl, braces, brackets, fun operator ho => ?_⟩
    have both : ∃ test, Test.read operator (enclosed '\x7b' '\x7d' literals) = .ok test ∧
        Test.read operator (enclosed '[' ']' literals) = .ok test := by
      simp only [List.mem_cons, List.not_mem_nil, or_false] at ho
      rcases ho with rfl | rfl | rfl <;>
        exact ⟨_, by rw [Test.read, braces, Except.map], by rw [Test.read, brackets, Except.map]⟩
    obtain ⟨test, told, told'⟩ := both
    exact read_of_same_test told told'

theorem quoted_list_decodes_of_marks :
    List.Forall₂ IsLiteral ["a,\"]", "\\\n", "😀"]
        ["\"a,\\\"]\"".toList, "\"\\\\\\n\"".toList, "\"\\uD83D\\uDe00\"".toList] ∧
      (∃ f, read "t".toList "in.(\"a,\\\"]\",\"\\\\\\n\",\"\\uD83D\\uDe00\")".toList = .ok f ∧
        f.holds (.object [("t", .string "\\\n")]) = .ok true ∧
        f.holds (.object [("t", .string "a")]) = .ok false) ∧
      ∃ operand : Collection, operand.elements = some (["a,\"]", "\\\n", "😀"].map Codes.ofString) ∧
        Test.readCollection "\x7b\"a,\\\"]\",\"\\\\\\n\",\"\\uD83D\\uDe00\"\x7d".toList =
          .ok operand := by
  have marks : IsLiteral "a,\"]" "\"a,\\\"]\"".toList := isLiteral_escaped _
  have escapes : IsLiteral "\\\n" "\"\\\\\\n\"".toList := isLiteral_escaped _
  have high : HexCode (0xD800 + 0x3D) ['D', '8', '3', 'D'] :=
    .mk (.inr rfl : HexFigure 13 'D') (.inl rfl : HexFigure 8 '8') (.inl rfl : HexFigure 3 '3')
      (.inr rfl : HexFigure 13 'D')
  have low : HexCode (0xDC00 + 0x200) ['D', 'e', '0', '0'] :=
    .mk (.inr rfl : HexFigure 13 'D') (.inl rfl : HexFigure 14 'e') (.inl rfl : HexFigure 0 '0')
      (.inl rfl : HexFigure 0 '0')
  have pair : IsLiteral "😀" "\"\\uD83D\\uDe00\"".toList :=
    ⟨[_], .cons (.pair (by decide) (by decide) rfl high low) .nil, rfl⟩
  have literals : List.Forall₂ IsLiteral ["a,\"]", "\\\n", "😀"]
      ["\"a,\\\"]\"".toList, "\"\\\\\\n\"".toList, "\"\\uD83D\\uDe00\"".toList] :=
    .cons marks (.cons escapes (.cons pair .nil))
  obtain ⟨⟨f, read, answers⟩, braces⟩ := quoted_list_decodes "t".toList literals
  obtain ⟨operand, elements, -, told, -⟩ := braces (by decide)
  have held := (answers [("t", .string "\\\n")]).1
  have missed := (answers [("t", .string "a")]).1
  exact ⟨literals, ⟨f, read, held, missed⟩, operand, elements, told⟩

end Filter

end

end TableServer
