import TableServer.Filter.Reader
import TableServer.Proofs.Grammar.Neutral
import TableServer.Proofs.Outcome
import TableServer.Proofs.Text.Parts

/-! Logic trees and their texts. A group whose members are neutral texts is neutral itself, so that
a text of any depth is read back as the tree that it spells. -/
namespace TableServer

open Grammar

namespace Filter

def GroupHead.key (head : GroupHead) : List Char :=
  (if head.negated then "not.".toList else []) ++ head.joint.word.toList

theorem logicKey?_key (head : GroupHead) : logicKey? head.key = some head := by
  obtain ⟨negated, joint⟩ := head
  cases negated <;> cases joint <;> rfl

theorem nestedGroup?_key (head : GroupHead) (rest : List Char) :
    nestedGroup? (head.key ++ '(' :: rest) = some (head, '(' :: rest) := by
  obtain ⟨negated, joint⟩ := head
  cases negated <;> cases joint <;> rfl

theorem readHead?_eq_some {text rest : List Char} {head : GroupHead}
    (h : readHead? text = some (head, rest)) : text = head.key ++ rest := by
  unfold readHead? at h
  dsimp only at h
  have opened : text = (if (Text.dropStart? "not.".toList text).isSome then "not.".toList else []) ++
      (Text.dropStart? "not.".toList text).getD text := by
    cases hn : Text.dropStart? "not.".toList text with
    | none => rfl
    | some body => exact Text.dropStart?_eq_some_iff.mp hn
  split at h
  · rename_i ho
    cases h
    rw [GroupHead.key, List.append_assoc]
    exact opened.trans (congrArg _ (Text.dropStart?_eq_some_iff.mp ho))
  · obtain ⟨other, ha, he⟩ := Option.map_eq_some_iff.mp h
    cases he
    rw [GroupHead.key, List.append_assoc]
    exact opened.trans (congrArg _ (Text.dropStart?_eq_some_iff.mp ha))

theorem nestedGroup?_of_apart {text : List Char}
    (h : ∀ head : GroupHead, ¬ head.key ++ ['('] <+: text) : nestedGroup? text = none := by
  unfold nestedGroup?
  split
  · rename_i head rest hr
    have spelt := readHead?_eq_some hr
    exact absurd ⟨rest, by simp [spelt]⟩ (h head)
  · rfl

def readMember (member : List Char) : Outcome Filter :=
  match nestedGroup? member with
  | none => readLeaf member
  | some (inner, text) => (unwrap '(' ')' inner.joint.word text).bind (readGroup inner)

theorem readGroup_eq (head : GroupHead) (body : List Char) :
    readGroup head body = (groupMembers head.joint body).bind fun members =>
      (members.mapM readMember).map fun parts => negateIf head.negated (head.joint.join parts) := by
  rw [readGroup]
  split
  · rename_i h
    rw [h]
    rfl
  · rename_i members h
    refine Eq.trans ?_ (congrArg (Except.bind · _) h).symm
    refine congrArg (Except.map _) ?_
    -- The members are read with the proofs that make the recursion end, which are dropped here.
    rw [List.mapM_subtype (g := readMember), List.unattach_attach]
    intro member hm
    dsimp only
    rw [readMember]
    split
    · rename_i hn
      rw [hn]
    · rename_i hn
      rw [hn]
      dsimp only
      split
      · rename_i hu
        rw [hu]
        rfl
      · rename_i hu
        rw [hu]
        rfl

/-- A condition on one column as it is written within a group: its text is neutral, is not trimmed,
and is not taken for a group. -/
structure Leaf where
  column : List Char
  expression : List Char
  filter : Filter
  read : Filter.read column expression = .ok filter
  named : column ≠ []
  undotted : '.' ∉ column
  neutral : Neutral false (column ++ '.' :: expression)
  trimmed : Text.trim (column ++ '.' :: expression) = column ++ '.' :: expression
  apart : ∀ head : GroupHead, ¬ head.key ++ ['('] <+: column ++ '.' :: expression

def Leaf.text (l : Leaf) : List Char :=
  l.column ++ '.' :: l.expression

theorem Leaf.readLeaf_text (l : Leaf) : readLeaf l.text = .ok l.filter := by
  obtain ⟨c, column, hc⟩ := List.exists_cons_of_ne_nil l.named
  have read := l.read
  rw [readLeaf, Leaf.text, Text.cut?_append l.undotted, hc]
  rwa [hc] at read

/-- Groups of conditions and of groups. A group has a first member. -/
inductive LogicTree where
  | leaf (l : Leaf)
  | group (head : GroupHead) (first : LogicTree) (rest : List LogicTree)

namespace LogicTree

mutual

def text : LogicTree → List Char
  | leaf l => l.text
  | group head first rest =>
      head.key ++ '(' :: (List.intercalate [','] (text first :: texts rest) ++ [')'])
termination_by structural t => t

def texts : List LogicTree → List (List Char)
  | [] => []
  | t :: rest => text t :: texts rest
termination_by structural ts => ts

end

mutual

def filter : LogicTree → Filter
  | leaf l => l.filter
  | group head first rest => negateIf head.negated (head.joint.join (filter first :: filters rest))
termination_by structural t => t

def filters : List LogicTree → List Filter
  | [] => []
  | t :: rest => filter t :: filters rest
termination_by structural ts => ts

end

theorem texts_eq_map (ts : List LogicTree) : texts ts = ts.map text := by
  induction ts with
  | nil => rfl
  | cons t rest ih => rw [texts, ih, List.map_cons]

theorem filters_eq_map (ts : List LogicTree) : filters ts = ts.map filter := by
  induction ts with
  | nil => rfl
  | cons t rest ih => rw [filters, ih, List.map_cons]

def body (first : LogicTree) (rest : List LogicTree) : List Char :=
  List.intercalate [','] ((first :: rest).map text)

theorem text_group (head : GroupHead) (first : LogicTree) (rest : List LogicTree) :
    (group head first rest).text = head.key ++ '(' :: (body first rest ++ [')']) := by
  rw [text, texts_eq_map, body, List.map_cons]

theorem filter_group (head : GroupHead) (first : LogicTree) (rest : List LogicTree) :
    (group head first rest).filter =
      negateIf head.negated (head.joint.join ((first :: rest).map filter)) := by
  rw [filter, filters_eq_map, List.map_cons]

theorem induct {motive : LogicTree → Prop} (leaf : ∀ l, motive (.leaf l))
    (group : ∀ head first rest, (∀ t ∈ first :: rest, motive t) →
      motive (.group head first rest)) (t : LogicTree) : motive t := by
  refine @LogicTree.rec motive (fun ts => ∀ t ∈ ts, motive t) leaf ?_ (by simp) ?_ t
  · intro head first rest hf hr
    exact group head first rest (List.forall_mem_cons.mpr ⟨hf, hr⟩)
  · intro t rest ht hr
    exact List.forall_mem_cons.mpr ⟨ht, hr⟩

theorem neutral_key (head : GroupHead) : Neutral false head.key := by
  refine Neutral.of_plain ?_
  obtain ⟨negated, joint⟩ := head
  cases negated <;> cases joint <;> rfl

theorem neutral_text (t : LogicTree) : Neutral false t.text := by
  induction t using induct with
  | leaf l => exact l.neutral
  | group head first rest ih =>
      have inner : Neutral true (body first rest) := by
        refine Neutral.intercalate fun member hm => ?_
        obtain ⟨t, ht, rfl⟩ := List.mem_map.mp hm
        exact (ih t ht).inside
      rw [text_group]
      have pair : closerOf? '(' = some ')' := rfl
      exact (neutral_key head).append (.bracketed pair inner .nil)

theorem trim_text (t : LogicTree) : Text.trim t.text = t.text := by
  cases t with
  | leaf l => exact l.trimmed
  | group head first rest =>
      obtain ⟨c, key, hc, hk⟩ : ∃ c key, Text.isBlank c = false ∧ head.key = c :: key := by
        obtain ⟨negated, joint⟩ := head
        cases negated <;> cases joint <;> exact ⟨_, _, by decide, rfl⟩
      have trimmed := Text.trim_of_ends hc (by decide : Text.isBlank ')' = false)
        (key ++ '(' :: body first rest)
      rw [text_group, hk]
      simpa using trimmed

theorem text_ne_nil (t : LogicTree) : t.text ≠ [] := by
  cases t with
  | leaf l => simp [text, Leaf.text]
  | group head first rest => simp [text]

theorem groupMembers_body (joint : Joint) (first : LogicTree) (rest : List LogicTree) :
    groupMembers joint (body first rest) = .ok ((first :: rest).map text) := by
  have parts : splitTopLevel ',' (body first rest) = .ok ((first :: rest).map text) := by
    rw [body, List.map_cons]
    refine splitTopLevel_intercalate fun member hm => ?_
    rw [← List.map_cons] at hm
    obtain ⟨t, -, rfl⟩ := List.mem_map.mp hm
    exact neutral_text t
  have trimmed : ((first :: rest).map text).map Text.trim = (first :: rest).map text := by
    rw [List.map_map]
    exact List.map_congr_left fun t _ => trim_text t
  have filled : ((first :: rest).map text).all List.isEmpty = false := by
    simp [text_ne_nil first]
  simp only [groupMembers, parts, bind, Except.bind, trimmed, filled, Bool.false_eq_true, if_false]
  rfl

theorem readGroup_body {head : GroupHead} {first : LogicTree} {rest : List LogicTree}
    (h : ∀ t ∈ first :: rest, readMember t.text = .ok t.filter) :
    readGroup head (body first rest) = .ok (group head first rest).filter := by
  have parts := Outcome.mapM_eq_ok_map (f := readMember ∘ text) h
  rw [readGroup_eq, groupMembers_body, Except.bind, List.mapM_map, parts, filter_group]
  rfl

theorem readMember_text (t : LogicTree) : readMember t.text = .ok t.filter := by
  induction t using induct with
  | leaf l =>
      rw [readMember, text, Leaf.text, nestedGroup?_of_apart l.apart]
      exact l.readLeaf_text
  | group head first rest ih =>
      rw [readMember, text_group, nestedGroup?_key]
      simp only [unwrap_wrapped, Except.bind]
      exact readGroup_body ih

/-- The parameter of a logic key is read back as the tree that it spells. -/
theorem readLogic_body (head : GroupHead) (first : LogicTree) (rest : List LogicTree) :
    readLogic head.key ('(' :: (body first rest ++ [')'])) =
      .ok (group head first rest).filter := by
  have trimmed := Text.trim_of_ends (by decide : Text.isBlank '(' = false)
    (by decide : Text.isBlank ')' = false) (body first rest)
  simp only [readLogic, logicKey?_key, trimmed, unwrap_wrapped, bind, Except.bind]
  exact readGroup_body fun t _ => readMember_text t

def titleLeaf : Leaf where
  column := "title".toList
  expression := "eq.(a,\"b,(\")".toList
  filter := .condition ⟨"title", "(a,\"b,(\")", .equals "(a,\"b,(\")"⟩
  read := by rfl
  named := by decide
  undotted := by decide
  neutral := by
    have hidden : Protected ['b', ',', '('] :=
      .plain (by decide) (by decide)
        (.plain (by decide) (by decide) (.plain (by decide) (by decide) .nil))
    have items : Neutral true ['a', ',', '"', 'b', ',', '(', '"'] :=
      .plain (by decide) (by decide) (by decide) (by decide) (Neutral.quoted hidden .nil).comma
    have pair : closerOf? '(' = some ')' := rfl
    have front : Neutral false "title.eq.".toList := .of_plain rfl
    exact front.append (.bracketed pair items .nil)
  trimmed := by decide
  apart := by
    rintro ⟨negated, joint⟩
    cases negated <;> cases joint <;> decide

theorem readLogic_of_titles :
    readLogic "or".toList
        "(title.eq.(a,\"b,(\"),not.and(title.eq.(a,\"b,(\"),title.eq.(a,\"b,(\")))".toList =
      .ok (.disjunction [titleLeaf.filter,
        .negation (.conjunction [titleLeaf.filter, titleLeaf.filter])]) :=
  readLogic_body ⟨false, .any⟩ (.leaf titleLeaf)
    [.group ⟨true, .all⟩ (.leaf titleLeaf) [.leaf titleLeaf]]

end LogicTree

end Filter

end TableServer
