import TableServer.Proofs.Filter.LogicTree
import TableServer.Proofs.Filter.QuotedLists

/-! Quoted values within groups. A group splits its members where it is outside of quotes and
brackets, so that a quoted value stays whole whatever it holds. What becomes of the quotes is up to
the operator: a list of items removes them, and a test for equality keeps them as a part of the
text that it looks for. -/
namespace TableServer

open Grammar Value

/-- Columns that are written as they are in front of an operator: without a point, without blanks at
the ends, and without quotes, commas and brackets. -/
structure MemberColumn (column : List Char) : Prop where
  named : column ≠ []
  undotted : '.' ∉ column
  trimmed : Text.Trimmed column
  plain : ∀ c ∈ column, c ∉ ['"', ',', '(', ')', '[', ']', '\x7b', '\x7d']

theorem MemberColumn.isPlain {column : List Char} (written : MemberColumn column) {c : Char}
    (hc : c ∈ column) : Neutral.isPlain c = true := by
  have other := written.plain c hc
  simp only [List.mem_cons, List.not_mem_nil, or_false, not_or] at other
  simp [Neutral.isPlain, closerOf?, closers, other]

/-- A double quote or a backslash behind a backslash; any other character as it is. -/
def escapeMark (c : Char) : List Char :=
  if c = '"' ∨ c = '\\' then ['\\', c] else [c]

/-- A text in double quotes, with a backslash in front of each double quote and backslash. -/
def quotedText (text : List Char) : List Char :=
  '"' :: (text.flatMap escapeMark ++ ['"'])

theorem spells_escapeMark {c : Char} (shown : 32 ≤ c.toNat) : Spells c (escapeMark c) := by
  unfold escapeMark
  split_ifs with mark
  · rcases mark with rfl | rfl
    · exact .short (by decide)
    · exact .short (by decide)
  · obtain ⟨quote, backslash⟩ := not_or.mp mark
    exact .plain quote backslash shown

theorem isLiteral_quotedText {s : String} (shown : ∀ c ∈ s.toList, 32 ≤ c.toNat) :
    IsLiteral s (quotedText s.toList) := by
  refine ⟨s.toList.map escapeMark, ?_, ?_⟩
  · exact List.forall₂_map_right_iff.mpr
      (List.forall₂_same.mpr fun c hc => spells_escapeMark (shown c hc))
  · rw [quotedText, List.flatMap_def]

theorem length_le_flatMap_escapeMark (text : List Char) :
    text.length ≤ (text.flatMap escapeMark).length := by
  induction text with
  | nil => exact Nat.le_refl 0
  | cons c rest ih =>
      have one : 1 ≤ (escapeMark c).length := by
        unfold escapeMark
        split <;> simp
      rw [List.flatMap_cons, List.length_append, List.length_cons]
      omega

theorem quotedText_ne (text : List Char) : quotedText text ≠ text := by
  intro same
  have lengths := congrArg List.length same
  have kept := length_le_flatMap_escapeMark text
  simp only [quotedText, List.length_cons, List.length_append, List.length_nil] at lengths
  omega

namespace Filter

def memberText (column : List Char) (operator : Operator) (literal : List Char) : List Char :=
  column ++ '.' :: expression operator literal

variable {column : List Char} {f g : Filter}

/-! ### Members and groups -/

theorem GroupHead.getLast?_key_ne (head : GroupHead) : head.key.getLast? ≠ some '.' := by
  obtain ⟨negated, joint⟩ := head
  cases negated <;> cases joint <;> decide

theorem GroupHead.not_mem_key (head : GroupHead) {mark : Char} (hm : mark ∈ ['"', '(']) :
    mark ∉ head.key := by
  obtain ⟨negated, joint⟩ := head
  rcases List.mem_pair.mp hm with rfl | rfl <;> cases negated <;> cases joint <;> decide

/-- A text whose first quote or parenthesis stands behind a point is not taken for a group. -/
theorem apart_of_dotted {front : List Char} {mark : Char} (dotted : front.getLast? = some '.')
    (unopened : '(' ∉ front) (hm : mark ∈ ['"', '(']) (tail : List Char) (head : GroupHead) :
    ¬ head.key ++ ['('] <+: front ++ mark :: tail := by
  rintro ⟨rest, same⟩
  rw [List.append_assoc, List.singleton_append] at same
  -- The key ends in front of the mark, at it or behind it, and each of these is told by one of the
  -- characters that a key lacks.
  rcases List.append_eq_append_iff.mp same with ⟨more, rfl, behind⟩ | ⟨more, key, behind⟩
  · cases more with
    | nil => exact head.getLast?_key_ne (by simpa using dotted)
    | cons c more =>
        cases behind
        exact unopened (by simp)
  · cases more with
    | nil => exact head.getLast?_key_ne (by simpa [key] using dotted)
    | cons c more =>
        cases behind
        exact head.not_mem_key hm (by simp [key])

theorem exists_leaf {operator : Operator} {mark : Char} {tail : List Char}
    (written : MemberColumn column) (hm : mark ∈ ['"', '('])
    (told : read column (expression operator (mark :: tail)) = .ok f)
    (neutral : Neutral false (mark :: tail)) (trimmed : Text.Trimmed (mark :: tail)) :
    ∃ l : Leaf, l.text = memberText column operator (mark :: tail) ∧ l.filter = f := by
  -- All that stands in front of the literal is plain, and ends in a point.
  have split : column ++ '.' :: expression operator (mark :: tail) =
      column ++ '.' :: (operator.name.toList ++ ['.']) ++ mark :: tail := by
    simp [expression]
  have shown : ('.' :: (operator.name.toList ++ ['.'])).all (!Text.isBlank ·) = true := by
    cases operator <;> decide
  have unmarked : ('.' :: (operator.name.toList ++ ['.'])).all Neutral.isPlain = true := by
    cases operator <;> decide
  have plain : (column ++ '.' :: (operator.name.toList ++ ['.'])).all Neutral.isPlain = true := by
    rw [List.all_append, unmarked, Bool.and_true]
    exact List.all_eq_true.mpr fun c hc => written.isPlain hc
  have unopened : '(' ∉ column ++ '.' :: (operator.name.toList ++ ['.']) :=
    fun opened => absurd (List.all_eq_true.mp plain '(' opened) (by decide)
  refine ⟨⟨column, expression operator (mark :: tail), f, told, written.named, written.undotted,
    ?_, ?_, ?_⟩, rfl, rfl⟩
  · rw [split]
    exact (Neutral.of_plain plain).append neutral
  · rw [split]
    exact ((written.trimmed.append (.of_all shown)).append trimmed).trim_eq
  · rw [split]
    refine apart_of_dotted ?_ unopened hm tail
    rw [← List.cons_append, ← List.append_assoc, List.getLast?_concat]

theorem readLogic_members (head : GroupHead) {ts : List LogicTree} (filled : ts ≠ []) :
    readLogic head.key (enclosed '(' ')' (ts.map LogicTree.text)) =
      .ok (negateIf head.negated (head.joint.join (ts.map LogicTree.filter))) := by
  obtain ⟨first, rest, rfl⟩ := List.exists_cons_of_ne_nil filled
  have trimmed := Text.trim_of_ends (by decide : Text.isBlank '(' = false)
    (by decide : Text.isBlank ')' = false) (LogicTree.body first rest)
  change readLogic head.key ('(' :: (LogicTree.body first rest ++ [')'])) = _
  simp only [readLogic, logicKey?_key, trimmed, unwrap_wrapped, bind, Except.bind]
  rw [LogicTree.readGroup_body fun t _ => t.readMember_text, LogicTree.filter_group]

theorem readLogic_leaf (head : GroupHead) (before after : List LogicTree) (l : Leaf) :
    readLogic head.key
        (enclosed '(' ')' (before.map LogicTree.text ++ l.text :: after.map LogicTree.text)) =
      .ok (negateIf head.negated (head.joint.join
        (before.map LogicTree.filter ++ l.filter :: after.map LogicTree.filter))) := by
  have filled : before ++ LogicTree.leaf l :: after ≠ [] := by simp
  have told := readLogic_members head filled
  simpa only [List.map_append, List.map_cons, LogicTree.text, LogicTree.filter] using told

/-! ### Members that decide alike -/

theorem allHold_replace {row : Value} (same : f.holds row = g.holds row)
    (before after : List Filter) :
    allHold (before ++ f :: after) row = allHold (before ++ g :: after) row := by
  induction before with
  | nil => rw [List.nil_append, List.nil_append, allHold, allHold, same]
  | cons part before ih => rw [List.cons_append, List.cons_append, allHold, allHold, ih]

theorem anyHolds_replace {row : Value} (same : f.holds row = g.holds row)
    (before after : List Filter) :
    anyHolds (before ++ f :: after) row = anyHolds (before ++ g :: after) row := by
  induction before with
  | nil => rw [List.nil_append, List.nil_append, anyHolds, anyHolds, same]
  | cons part before ih => rw [List.cons_append, List.cons_append, anyHolds, anyHolds, ih]

theorem holds_group_replace {row : Value} (same : f.holds row = g.holds row) (head : GroupHead)
    (before after : List Filter) :
    (negateIf head.negated (head.joint.join (before ++ f :: after))).holds row =
      (negateIf head.negated (head.joint.join (before ++ g :: after))).holds row := by
  obtain ⟨negated, joint⟩ := head
  have joined : (joint.join (before ++ f :: after)).holds row =
      (joint.join (before ++ g :: after)).holds row := by
    cases joint with
    | any => simpa only [Joint.join, holds] using anyHolds_replace same before after
    | all => simpa only [Joint.join, holds] using allHold_replace same before after
  cases negated with
  | false => exact joined
  | true => simp only [negateIf, if_true, holds, joined]

theorem holds_join_single (joint : Joint) (f : Filter) (row : Value) :
    (joint.join [f]).holds row = f.holds row := by
  cases joint with
  | any =>
      rw [Joint.join, holds, anyHolds, anyHolds]
      rcases f.holds row with fault | (_ | _) <;> rfl
  | all =>
      rw [Joint.join, holds, allHold, allHold]
      rcases f.holds row with fault | (_ | _) <;> rfl

theorem readLogic_single (joint : Joint) (l : Leaf) : ∃ group,
    readLogic joint.word.toList (enclosed '(' ')' [l.text]) = .ok group ∧
      group.holds = l.filter.holds :=
  ⟨_, readLogic_leaf ⟨false, joint⟩ [] [] l, funext (holds_join_single joint l.filter)⟩

theorem holds_oneOf_single (column literal s : String) :
    (condition ⟨column, literal, .oneOf [s]⟩).holds =
      (condition ⟨column, s, .equals s⟩).holds := by
  funext row
  cases row with
  | object members =>
      rw [holds, holds, Condition.holds, Condition.holds]
      congr 1
      funext v
      simp [Test.holds]
  | _ => rfl

theorem holds_equals_apart {column literal literal' s s' : String} (other : s ≠ s') {row : Value}
    (h : (condition ⟨column, literal, .equals s⟩).holds row = .ok true) :
    (condition ⟨column, literal', .equals s'⟩).holds row = .ok false := by
  cases row with
  | object members =>
      rw [holds, Condition.holds, Outcome.map_eq_ok_iff] at h ⊢
      obtain ⟨v, held, text⟩ := h
      refine ⟨v, held, ?_⟩
      simp only [Test.holds, decide_eq_true_eq] at text
      simp [Test.holds, text, other]
  | _ => cases h

/-! ### Quoted values and lists of them -/

variable {s : String} {literal : List Char}

theorem read_equals (column literal : List Char) : read column (expression .eq literal) =
    .ok (.condition
      ⟨String.ofList column, String.ofList literal, .equals (String.ofList literal)⟩) := by
  rw [read_expression, Test.read, Except.map]

theorem read_oneOf_single (column : List Char) (h : IsLiteral s literal) :
    read column (expression .oneOf (enclosed '(' ')' [literal])) =
      .ok (.condition ⟨String.ofList column, String.ofList (enclosed '(' ')' [literal]),
        .oneOf [s]⟩) := by
  have told : Test.read .oneOf (enclosed '(' ')' [literal]) = .ok (.oneOf [s]) :=
    Test.readOneOf_of_literals (.cons h .nil)
  rw [read_expression, told, Except.map]

theorem exists_leaf_equals (written : MemberColumn column) (h : IsLiteral s literal) :
    ∃ l : Leaf, l.text = memberText column .eq literal ∧
      l.filter = .condition
        ⟨String.ofList column, String.ofList literal, .equals (String.ofList literal)⟩ := by
  have neutral := h.neutral
  obtain ⟨pieces, -, rfl⟩ := h
  exact exists_leaf written (by simp) (read_equals column _) neutral
    (.of_ends (by decide) (by decide) _)

theorem exists_leaf_oneOf (written : MemberColumn column) (h : IsLiteral s literal) :
    ∃ l : Leaf, l.text = memberText column .oneOf (enclosed '(' ')' [literal]) ∧
      l.filter = .condition
        ⟨String.ofList column, String.ofList (enclosed '(' ')' [literal]), .oneOf [s]⟩ := by
  have pair : closerOf? '(' = some ')' := rfl
  have neutral : Neutral false (enclosed '(' ')' [literal]) := by
    rw [enclosed, List.intercalate_singleton]
    exact .bracketed pair h.neutral.inside .nil
  exact exists_leaf written (by simp) (read_oneOf_single column h) neutral
    (.of_ends (by decide) (by decide) _)

/-- A quoted value as the member of a group is looked for with its quotes, and so is never found
where the value itself is. A list of the quoted value selects what the value itself does, at the top
level and as a member of any group, whatever the value holds. -/
theorem quoted_members (written : MemberColumn column) {s : String}
    (shown : ∀ c ∈ s.toList, 32 ≤ c.toNat) :
    let quoted := quotedText s.toList
    let list := enclosed '(' ')' [quoted]
    ∃ plain kept listed : Filter,
      read column (expression .eq s.toList) = .ok plain ∧
      read column (expression .eq quoted) = .ok kept ∧
      read column (expression .oneOf list) = .ok listed ∧
      (∀ table, selectRows listed.holds table = selectRows plain.holds table) ∧
      (∀ joint : Joint, ∃ group,
        readLogic joint.word.toList (enclosed '(' ')' [memberText column .oneOf list]) =
            .ok group ∧
          ∀ table, selectRows group.holds table = selectRows plain.holds table) ∧
      (∀ joint : Joint, ∃ group,
        readLogic joint.word.toList (enclosed '(' ')' [memberText column .eq quoted]) =
            .ok group ∧
          (∀ table, selectRows group.holds table = selectRows kept.holds table) ∧
          ∀ row, (plain.holds row = .ok true → group.holds row = .ok false) ∧
            (group.holds row = .ok true → plain.holds row = .ok false)) ∧
      ∀ (head : GroupHead) (before after : List LogicTree), ∃ group,
        readLogic head.key (enclosed '(' ')' (before.map LogicTree.text ++
            memberText column .oneOf list :: after.map LogicTree.text)) = .ok group ∧
          ∀ row, group.holds row = (negateIf head.negated (head.joint.join
            (before.map LogicTree.filter ++ plain :: after.map LogicTree.filter))).holds row := by
  intro quoted list
  have isLiteral : IsLiteral s quoted := isLiteral_quotedText shown
  obtain ⟨exactly, exactText, exactFilter⟩ := exists_leaf_equals written isLiteral
  obtain ⟨among, amongText, amongFilter⟩ := exists_leaf_oneOf written isLiteral
  have readPlain := read_equals column s.toList
  rw [String.ofList_toList] at readPlain
  have alike : among.filter.holds = (condition ⟨String.ofList column, s, .equals s⟩).holds := by
    rw [amongFilter, holds_oneOf_single]
  have other : String.ofList quoted ≠ s := by
    intro same
    have texts := congrArg String.toList same
    rw [String.toList_ofList] at texts
    exact quotedText_ne s.toList texts
  refine ⟨_, exactly.filter, among.filter, readPlain, ?_, ?_, ?_, ?_, ?_, ?_⟩
  · rw [read_equals, exactFilter]
  · rw [read_oneOf_single column isLiteral, amongFilter]
  · intro table
    rw [alike]
  · intro joint
    obtain ⟨group, told, same⟩ := readLogic_single joint among
    rw [amongText] at told
    refine ⟨group, told, fun table => ?_⟩
    rw [same, alike]
  · intro joint
    obtain ⟨group, told, same⟩ := readLogic_single joint exactly
    rw [exactText] at told
    refine ⟨group, told, fun table => by rw [same], fun row => ?_⟩
    rw [same, exactFilter]
    exact ⟨holds_equals_apart other.symm, holds_equals_apart other⟩
  · intro head before after
    have told := readLogic_leaf head before after among
    rw [amongText] at told
    exact ⟨_, told, fun row => holds_group_replace (congrFun alike row) head _ _⟩

theorem memberColumn_title : MemberColumn "title".toList :=
  ⟨by decide, by decide, .of_all (by decide), by simp⟩

theorem quoted_members_of_title :
    let list := "(\"a,\\\"(\\\\\")".toList
    MemberColumn "title".toList ∧ (∀ c ∈ "a,\"(\\".toList, 32 ≤ c.toNat) ∧
      ∃ plain listed group,
        read "title".toList (expression .eq "a,\"(\\".toList) = .ok plain ∧
        read "title".toList (expression .oneOf list) = .ok listed ∧
        readLogic "or".toList (enclosed '(' ')' [memberText "title".toList .oneOf list]) =
          .ok group ∧
        ∀ table, selectRows listed.holds table = selectRows plain.holds table ∧
          selectRows group.holds table = selectRows plain.holds table := by
  intro list
  have shown : ∀ c ∈ "a,\"(\\".toList, 32 ≤ c.toNat := by simp
  obtain ⟨plain, -, listed, readPlain, -, readListed, same, groups, -⟩ :=
    quoted_members memberColumn_title shown
  obtain ⟨group, told, same'⟩ := groups .any
  exact ⟨memberColumn_title, shown, plain, listed, group, readPlain, readListed, told,
    fun table => ⟨same table, same' table⟩⟩

/-- A title that its own text finds, and the list of the quoted one, is not found by the quoted text
as a member of a group. -/
theorem quoted_member_misses_title :
    let row : Value := .object [("title", .string "a,b")]
    ∃ plain listed group,
      read "title".toList "eq.a,b".toList = .ok plain ∧
      read "title".toList "in.(\"a,b\")".toList = .ok listed ∧
      readLogic "or".toList "(title.eq.\"a,b\")".toList = .ok group ∧
      selectRows plain.holds [row] = .ok [row] ∧ selectRows listed.holds [row] = .ok [row] ∧
      selectRows group.holds [row] = .ok [] := by
  intro row
  have isLiteral : IsLiteral "a,b" "\"a,b\"".toList := isLiteral_quotedText (by simp)
  obtain ⟨leaf, text, filter⟩ := exists_leaf_equals memberColumn_title isLiteral
  have told := readLogic_leaf ⟨false, .any⟩ [] [] leaf
  rw [text, filter] at told
  exact ⟨_, _, _, read_equals _ _, read_oneOf_single _ isLiteral, told, rfl, rfl, rfl⟩

end Filter

end TableServer
