import TableServer.Proofs.Filter.LogicTree
import TableServer.Proofs.Grammar.Closed
import TableServer.Proofs.Select.Reader
import TableServer.Proofs.Value.Extent
import TableServer.Query.Order

/-! Texts that are not closed. The splitter refuses exactly these, and with it the logic groups, the
lists in parentheses and in braces, the orders and the select lists that they stand in. -/
namespace TableServer

open Grammar

def unbalanced (text : List Char) : Failure :=
  .malformed ("Unbalanced quotes or brackets in \"" ++ String.ofList text ++ "\"")

/-- Texts that leave a quote or a bracket open. -/
def Unclosed (text : List Char) : Prop :=
  ¬ ∃ strays, Closed none strays text

theorem splitTopLevel_isOk_iff (separator : Char) (text : List Char) :
    (∃ parts, splitTopLevel separator text = .ok parts) ↔ ∃ strays, Closed none strays text := by
  rw [← split?_isSome_iff separator, splitTopLevel]
  cases split? separator .start text <;> simp

theorem splitTopLevel_of_isNone {separator : Char} {text : List Char}
    (h : ¬ ∃ parts, splitTopLevel separator text = .ok parts) :
    splitTopLevel separator text = .error (unbalanced text) := by
  unfold splitTopLevel at h ⊢
  split
  · rename_i parts found
    exact absurd ⟨parts, by rw [found]⟩ h
  · rfl

theorem closed_of_trim {text : List Char} (h : Text.trim text = []) : Closed none [] text := by
  have balanced : Neutral true text := .of_blank (Text.isBlank_of_trim h)
  exact .of_neutral balanced none

namespace Unclosed

variable {text : List Char}

theorem splitTopLevel (h : Unclosed text) (separator : Char) :
    splitTopLevel separator text = .error (unbalanced text) :=
  splitTopLevel_of_isNone (mt (splitTopLevel_isOk_iff separator text).mp h)

theorem listItems (h : Unclosed text) : listItems text = .error (unbalanced text) := by
  have shown : (Text.trim text).isEmpty = false := by
    rw [List.isEmpty_eq_false_iff]
    exact fun blank => h ⟨[], closed_of_trim blank⟩
  rw [Grammar.listItems, shown, h.splitTopLevel]
  rfl

theorem readOneOf (h : Unclosed text) :
    Test.readOneOf ('(' :: (text ++ [')'])) = .error (unbalanced text) := by
  rw [Test.readOneOf, unwrap_wrapped]
  change Except.bind (Grammar.listItems text) _ = _
  rw [h.listItems]
  rfl

theorem readGroup (h : Unclosed text) (head : Filter.GroupHead) :
    Filter.readGroup head text = .error (unbalanced text) := by
  have members : Filter.groupMembers head.joint text = .error (unbalanced text) := by
    rw [Filter.groupMembers, h.splitTopLevel]
    rfl
  rw [Filter.readGroup_eq, members]
  rfl

theorem readLogic (h : Unclosed text) {key expression : List Char} {head : Filter.GroupHead}
    (logic : Filter.logicKey? key = some head)
    (wrapped : Text.trim expression = '(' :: (text ++ [')'])) :
    Filter.readLogic key expression = .error (unbalanced text) := by
  simp only [Filter.readLogic, logic, wrapped, unwrap_wrapped, bind, Except.bind]
  exact h.readGroup head

theorem readOrder (h : Unclosed text) : OrderTerm.readList text = .error (unbalanced text) := by
  rw [OrderTerm.readList, h.splitTopLevel]
  rfl

theorem readSelect (h : Unclosed text) : Projection.read text = .error (unbalanced text) := by
  rw [Projection.read_eq, Projection.listedItems, h.splitTopLevel]
  rfl

/-- Braces around the text are neither an object, whose inside is balanced, nor a list. An integer
that is too long is noticed before. -/
theorem readCollection (h : Unclosed text) {literal : List Char}
    (wrapped : Text.trim literal = '\x7b' :: (text ++ ['\x7d'])) :
    Test.readCollection literal = .error (unbalanced text) ∨ ∃ digits,
      Test.readCollection literal =
        .error (.fault (.integer (.tooLong digits) (Text.trim literal))) := by
  have trimmed : Text.trim (Text.trim literal) = Text.trim literal := by
    rw [wrapped]
    exact Text.trim_of_ends (by decide) (by decide) text
  have filled : Text.trim literal ≠ ['\x7b', '\x7d'] := by
    intro braces
    rw [wrapped] at braces
    obtain rfl : text = [] := by simpa using braces
    exact h ⟨[], .nil⟩
  have refused : Except.bind (unwrap '\x7b' '\x7d' "array operators" (Text.trim literal))
      (fun body => (Grammar.listItems body).map fun texts => Collection.mk (some texts) none) =
        .error (unbalanced text) := by
    rw [wrapped, unwrap_wrapped, Except.bind, h.listItems]
    rfl
  rw [Test.readCollection, if_neg filled, Test.decodeLiteral]
  cases hr : Value.read (.ofChars (Text.trim literal)) with
  | error fault =>
      cases fault with
      | malformed cause rest => exact .inl refused
      | integerTooLong digits => exact .inr ⟨digits, rfl⟩
  | ok v =>
      cases v with
      | array items =>
          obtain ⟨⟨inner, -, other⟩, -⟩ := Value.read_trim hr (.inl rfl)
          rw [trimmed, wrapped] at other
          cases (List.cons_eq_cons.mp other).1
      | object members =>
          obtain ⟨⟨inner, balanced, same⟩, -⟩ := Value.read_trim hr (.inr rfl)
          rw [trimmed, wrapped] at same
          obtain rfl : text = inner.shown := by simpa using congrArg Codes.shown same
          exact absurd ⟨[], .of_neutral balanced none⟩ h
      | _ => exact .inl refused

end Unclosed

/-- The texts that the splitter accepts are the closed ones, whatever it splits at; they are
balanced where no closing bracket in them is a stray. Any other text is refused, and no group, list,
order or select list is made of it. -/
theorem split_of_closed (text : List Char) :
    (∀ separator, (∃ parts, splitTopLevel separator text = .ok parts) ↔
      ∃ strays, Closed none strays text) ∧
    (∀ separator, Neutral true text ↔
      (∃ parts, splitTopLevel separator text = .ok parts) ∧ Scan.start.strays text = []) ∧
    (Unclosed text →
      (∀ separator, splitTopLevel separator text = .error (unbalanced text)) ∧
      (∀ head, Filter.readGroup head text = .error (unbalanced text)) ∧
      (∀ key head expression, Filter.logicKey? key = some head →
        Text.trim expression = '(' :: (text ++ [')']) →
          Filter.readLogic key expression = .error (unbalanced text)) ∧
      Test.readOneOf ('(' :: (text ++ [')'])) = .error (unbalanced text) ∧
      (∀ literal, Text.trim literal = '\x7b' :: (text ++ ['\x7d']) →
        Test.readCollection literal = .error (unbalanced text) ∨ ∃ digits,
          Test.readCollection literal =
            .error (.fault (.integer (.tooLong digits) (Text.trim literal)))) ∧
      OrderTerm.readList text = .error (unbalanced text) ∧
      Projection.read text = .error (unbalanced text)) := by
  refine ⟨fun separator => splitTopLevel_isOk_iff separator text, fun separator => ?_,
    fun h => ⟨h.splitTopLevel, h.readGroup, fun _ _ _ logic wrapped => h.readLogic logic wrapped,
      h.readOneOf, fun _ wrapped => h.readCollection wrapped, h.readOrder, h.readSelect⟩⟩
  rw [splitTopLevel_isOk_iff]
  constructor
  · intro balanced
    have closed : Closed none [] text := .of_neutral balanced none
    exact ⟨⟨[], closed⟩, closed.strays_eq⟩
  · rintro ⟨⟨strays, closed⟩, no_strays⟩
    exact closed.neutral_iff.mpr (closed.strays_eq.symm.trans no_strays)

/-- An opening parenthesis that nothing closes, within a list as within a group. -/
theorem split_of_openParenthesis :
    splitTopLevel '.' "a,(b".toList = .error (unbalanced "a,(b".toList) ∧
      Filter.readLogic "or".toList "(a,(b)".toList = .error (unbalanced "a,(b".toList) ∧
      OrderTerm.readList "a,(b".toList = .error (unbalanced "a,(b".toList) := by
  have unclosed : Unclosed "a,(b".toList := by
    rw [Unclosed, ← split?_isSome_iff ',']
    decide
  obtain ⟨split, -, logic, -, -, order, -⟩ := (split_of_closed "a,(b".toList).2.2 unclosed
  exact ⟨split '.', logic _ ⟨false, .any⟩ _ rfl (by decide), order⟩

/-- A closing bracket that is not due is passed over, in a text as in a group. -/
theorem stray_passed_over :
    splitTopLevel ',' "a)b".toList = .ok ["a)b".toList] ∧ ¬ Neutral true "a)b".toList ∧
      (∃ f, Filter.readLogic "or".toList "(id.eq.1),id.eq.2)".toList = .ok f) ∧
      ¬ Neutral true "id.eq.1),id.eq.2".toList := by
  have unbalanced_of_stray : ∀ {text : List Char}, Scan.start.strays text ≠ [] →
      ¬ Neutral true text :=
    fun stray balanced => stray (Closed.of_neutral balanced none).strays_eq
  refine ⟨rfl, unbalanced_of_stray (by decide), ⟨.disjunction [
    .condition ⟨"id", "1)", .equals "1)"⟩, .condition ⟨"id", "2", .equals "2"⟩], ?_⟩,
    unbalanced_of_stray (by decide)⟩
  change Filter.readGroup ⟨false, .any⟩ "id.eq.1),id.eq.2".toList = _
  rw [Filter.readGroup_eq]
  rfl

end TableServer
