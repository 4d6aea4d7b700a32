import TableServer.Proofs.Faults
import TableServer.Proofs.Filter.LogicTree
import TableServer.Query.Reader

/-! The columns of filters. They stand in the texts that filters are read from, and deciding a
filter fails only on a path among them. -/
namespace TableServer

variable {sources : List (List Char)}

namespace Test

theorem readBound_yields (literal : List Char) :
    FailsOnly (Failure.Due sources) (readBound literal) := by
  unfold readBound
  split
  · trivial
  · split <;> trivial

theorem listItems_yields (body : List Char) :
    FailsOnly (Failure.Due sources) (Grammar.listItems body) := by
  unfold Grammar.listItems
  split
  · trivial
  · exact .map (Grammar.splitTopLevel_yields ',' body) fun _ _ => trivial

theorem decodeLiteral_yields {literal : List Char} (spelt : Spelt sources literal) :
    FailsOnly (Failure.Due sources) (decodeLiteral literal) := by
  unfold decodeLiteral
  split
  · trivial
  · trivial
  · rename_i tooLong
    exact .literal spelt tooLong

theorem readCollection_yields {literal : List Char} (spelt : Spelt sources literal) :
    FailsOnly (Failure.Due sources) (readCollection literal) := by
  unfold readCollection
  dsimp only
  split
  · trivial
  · refine .bind (decodeLiteral_yields (spelt.part (Text.trim_infix literal))) fun v _ => ?_
    split
    · trivial
    · trivial
    · refine .bind (Grammar.unwrap_yields _ _ _ _) fun body _ => ?_
      exact .bind (listItems_yields body) fun _ _ => trivial

theorem readAgrees_yields {literal : List Char} (spelt : Spelt sources literal) :
    FailsOnly (Failure.Due sources) (readAgrees literal) := by
  refine .bind (decodeLiteral_yields spelt) fun v _ => ?_
  split <;> trivial

theorem readIsNull_yields (literal : List Char) :
    FailsOnly (Failure.Due sources) (readIsNull literal) := by
  unfold readIsNull
  split <;> trivial

theorem readOneOf_yields (literal : List Char) :
    FailsOnly (Failure.Due sources) (readOneOf literal) := by
  refine .bind (Grammar.unwrap_yields _ _ _ _) fun body _ => ?_
  exact .bind (listItems_yields body) fun _ _ => trivial

theorem readSearch_yields (literal : List Char) :
    FailsOnly (Failure.Due sources) (readSearch literal) := by
  unfold readSearch
  split <;> trivial

theorem read_yields {literal : List Char} (spelt : Spelt sources literal) (operator : Operator) :
    FailsOnly (Failure.Due sources) (read operator literal) := by
  have bound (c : Comparison) :
      FailsOnly (Failure.Due sources) ((readBound literal).map (compares c)) :=
    (readBound_yields literal).map fun _ _ => trivial
  have collection (f : Collection → Test) :
      FailsOnly (Failure.Due sources) ((readCollection literal).map f) :=
    (readCollection_yields spelt).map fun _ _ => trivial
  cases operator with
  | gt => exact bound _
  | gte => exact bound _
  | lt => exact bound _
  | lte => exact bound _
  | isNull => exact readIsNull_yields literal
  | oneOf => exact readOneOf_yields literal
  | contains => exact collection _
  | containedBy => exact collection _
  | overlaps => exact collection _
  | search => exact readSearch_yields literal
  | agrees => exact readAgrees_yields spelt
  | eq => trivial
  | neq => trivial
  | like => trivial
  | ilike => trivial

end Test

namespace Filter

mutual

def columns : Filter → List String
  | condition c => [c.column]
  | negation inner => columns inner
  | conjunction parts => columnsOfAll parts
  | disjunction parts => columnsOfAll parts
termination_by structural f => f

def columnsOfAll : List Filter → List String
  | [] => []
  | f :: rest => columns f ++ columnsOfAll rest
termination_by structural fs => fs

end

theorem mem_columnsOfAll {parts : List Filter} {c : String} :
    c ∈ columnsOfAll parts ↔ ∃ f ∈ parts, c ∈ f.columns := by
  induction parts with
  | nil => simp [columnsOfAll]
  | cons f rest ih => simp [columnsOfAll, ih]

def SpeltIn (sources : List (List Char)) (f : Filter) : Prop :=
  ∀ c ∈ f.columns, Spelt sources c.toList

theorem speltIn_join (joint : Joint) {parts : List Filter} (h : ∀ f ∈ parts, f.SpeltIn sources) :
    (joint.join parts).SpeltIn sources := by
  have all : ∀ c ∈ columnsOfAll parts, Spelt sources c.toList := by
    intro c hc
    obtain ⟨f, hf, hc⟩ := mem_columnsOfAll.mp hc
    exact h f hf c hc
  cases joint <;> exact all

theorem speltIn_negateIf {f : Filter} (h : f.SpeltIn sources) (negated : Bool) :
    (negateIf negated f).SpeltIn sources := by
  cases negated <;> exact h

mutual

theorem holds_yields : ∀ f : Filter, f.SpeltIn sources → ∀ row : Value,
    FailsOnly (Fault.Due sources) (f.holds row)
  | condition c, spelt, row => by
      cases row with
      | object members =>
          exact .map (resolveColumn_yields (spelt c.column (by simp [columns])) members)
            fun _ _ => trivial
      | _ => trivial
  | negation inner, spelt, row => .map (holds_yields inner spelt row) fun _ _ => trivial
  | conjunction parts, spelt, row =>
      allHold_yields parts (fun f hf c hc => spelt c (mem_columnsOfAll.mpr ⟨f, hf, hc⟩)) row
  | disjunction parts, spelt, row =>
      anyHolds_yields parts (fun f hf c hc => spelt c (mem_columnsOfAll.mpr ⟨f, hf, hc⟩)) row
termination_by structural f => f

theorem allHold_yields : ∀ parts : List Filter, (∀ f ∈ parts, f.SpeltIn sources) → ∀ row : Value,
    FailsOnly (Fault.Due sources) (allHold parts row)
  | [], _, _ => trivial
  | f :: rest, spelt, row => by
      have head := holds_yields f (spelt f (by simp)) row
      have tail := allHold_yields rest (fun g hg => spelt g (by simp [hg])) row
      unfold allHold
      split
      · exact tail
      · trivial
      · rename_i fault
        rw [fault] at head
        exact head
termination_by structural parts => parts

theorem anyHolds_yields : ∀ parts : List Filter, (∀ f ∈ parts, f.SpeltIn sources) → ∀ row : Value,
    FailsOnly (Fault.Due sources) (anyHolds parts row)
  | [], _, _ => trivial
  | f :: rest, spelt, row => by
      have head := holds_yields f (spelt f (by simp)) row
      have tail := anyHolds_yields rest (fun g hg => spelt g (by simp [hg])) row
      unfold anyHolds
      split
      · trivial
      · exact tail
      · rename_i fault
        rw [fault] at head
        exact head
termination_by structural parts => parts

end

variable {column expression : List Char}

theorem read_yields (named : Spelt sources column) (told : Spelt sources expression) :
    Yields (SpeltIn sources) (Failure.Due sources) (read column expression) := by
  have body : Spelt sources ((Text.dropStart? "not.".toList expression).getD expression) := by
    cases hd : Text.dropStart? "not.".toList expression with
    | none => exact told
    | some rest => exact told.part (Text.suffix_of_dropStart? hd).isInfix
  unfold read
  dsimp only
  split
  · trivial
  · rename_i token literal cut
    have operator : FailsOnly (Failure.Due sources) (Operator.read token) := by
      unfold Operator.read
      split <;> trivial
    refine .bind operator fun operator _ => ?_
    refine .bind (Test.read_yields (body.part (Text.infix_of_cut? cut).2) operator) fun test _ => ?_
    refine speltIn_negateIf ?_ _
    simpa [SpeltIn, columns] using named

theorem readLeaf_yields {member : List Char} (spelt : Spelt sources member) :
    Yields (SpeltIn sources) (Failure.Due sources) (readLeaf member) := by
  unfold readLeaf
  split
  · rename_i cut
    obtain ⟨front, back⟩ := Text.infix_of_cut? cut
    exact read_yields (spelt.part front) (spelt.part back)
  · trivial

theorem groupMembers_yields (joint : Joint) (body : List Char) :
    Yields (fun members => ∀ member ∈ members, member <:+: body) (Failure.Due sources)
      (groupMembers joint body) := by
  refine .bind (Grammar.splitTopLevel_yields ',' body) fun parts inside => ?_
  dsimp only
  split
  · trivial
  · intro member hm
    obtain ⟨part, hp, rfl⟩ := List.mem_map.mp hm
    exact (Text.trim_infix part).trans (inside part hp)

theorem infix_of_nestedGroup? {member text : List Char} {head : GroupHead}
    (h : nestedGroup? member = some (head, text)) : text <:+: member := by
  unfold nestedGroup? at h
  split at h
  · rename_i read
    cases h
    rw [readHead?_eq_some read]
    exact (List.suffix_append _ _).isInfix
  · cases h

theorem readGroup_yields (head : GroupHead) {body : List Char} (spelt : Spelt sources body) :
    Yields (SpeltIn sources) (Failure.Due sources) (readGroup head body) := by
  induction hn : body.length using Nat.strongRecOn generalizing head body with
  | _ n ih =>
      subst hn
      rw [readGroup_eq]
      refine .bind (groupMembers_yields head.joint body) fun members inside => ?_
      refine .map (.mapM (q := SpeltIn sources) fun member hm => ?_) fun parts hparts =>
        speltIn_negateIf (speltIn_join head.joint hparts) _
      have told := spelt.part (inside member hm)
      unfold readMember
      split
      · exact readLeaf_yields told
      · rename_i inner text nested
        have stands := infix_of_nestedGroup? nested
        refine (Grammar.unwrap_yields '(' ')' inner.joint.word text).elim
          (fun innerBody unwrapped within => ?_) fun _ due => due
        have shorter : innerBody.length < body.length := by
          have a := (inside member hm).length_le
          have b := length_of_nestedGroup nested
          have c := length_of_unwrap unwrapped
          omega
        exact ih _ shorter inner (told.part (within.trans stands)) rfl

theorem readLogic_yields (key : List Char) (told : Spelt sources expression) :
    Yields (SpeltIn sources) (Failure.Due sources) (readLogic key expression) := by
  unfold readLogic
  split
  · trivial
  · refine .bind (Grammar.unwrap_yields _ _ _ _) fun body inside => ?_
    exact readGroup_yields _ (told.part (inside.trans (Text.trim_infix expression)))

end Filter

theorem readFilter_yields {key value : List Char} (named : Spelt sources key)
    (told : Spelt sources value) :
    Yields (Filter.SpeltIn sources) (Failure.Due sources) (readFilter key value) := by
  unfold readFilter
  split
  · exact Filter.readLogic_yields key told
  · exact Filter.read_yields named told

end TableServer
