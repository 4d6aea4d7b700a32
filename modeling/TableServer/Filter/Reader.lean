import TableServer.Filter.Operand

/-! Filters read from query strings: `operator.literal` for a column, with `not.` in front for
the negation, and groups `or(…)` and `and(…)` of members `column.operator.literal`. -/
namespace TableServer.Filter

def negateIf (negated : Bool) (f : Filter) : Filter :=
  if negated then .negation f else f

def read (column expression : List Char) : Outcome Filter :=
  let positive := Text.dropStart? "not.".toList expression
  let body := positive.getD expression
  match Text.cut? '.' body with
  | none =>
      .error (.malformed ("Filter \"" ++ String.ofList column ++ "=" ++ String.ofList body ++
        "\" is missing an operator or value"))
  | some (token, literal) => do
      let operator ← Operator.read token
      let test ← Test.read operator literal
      return negateIf positive.isSome
        (.condition ⟨String.ofList column, String.ofList literal, test⟩)

inductive Joint where
  | any
  | all
deriving DecidableEq

def Joint.word : Joint → String
  | any => "or"
  | all => "and"

def Joint.join : Joint → List Filter → Filter
  | any => .disjunction
  | all => .conjunction

structure GroupHead where
  negated : Bool
  joint : Joint
deriving DecidableEq

def readHead? (text : List Char) : Option (GroupHead × List Char) :=
  let positive := Text.dropStart? "not.".toList text
  let body := positive.getD text
  match Text.dropStart? "or".toList body with
  | some rest => some (⟨positive.isSome, .any⟩, rest)
  | none => (Text.dropStart? "and".toList body).map fun rest => (⟨positive.isSome, .all⟩, rest)

/-- The head that a whole key spells; one final line feed may follow it. -/
def logicKey? (key : List Char) : Option GroupHead :=
  match readHead? key with
  | some (head, rest) => if rest = [] ∨ rest = ['\n'] then some head else none
  | none => none

def isLogicKey (key : String) : Bool :=
  (logicKey? key.toList).isSome

def nestedGroup? (member : List Char) : Option (GroupHead × List Char) :=
  match readHead? member with
  | some (head, '(' :: rest) => some (head, '(' :: rest)
  | _ => none

def readLeaf (member : List Char) : Outcome Filter :=
  match Text.cut? '.' member with
  | some (c :: column, expression) => read (c :: column) expression
  | _ =>
      .error (.malformed ("Logic member \"" ++ String.ofList member ++
        "\" must look like column.operator.value"))

/-- The trimmed members of a group, of which one at least has to be there. -/
def groupMembers (joint : Joint) (body : List Char) : Outcome (List (List Char)) := do
  let parts ← Grammar.splitTopLevel ',' body
  let members := parts.map Text.trim
  if members.all List.isEmpty then .error (.malformed ("Empty " ++ joint.word ++ "() group"))
  else return members

theorem length_of_dropStart {start text rest : List Char}
    (h : Text.dropStart? start text = some rest) :
    rest.length ≤ text.length := by
  induction start generalizing text with
  | nil =>
      simp only [Text.dropStart?, Option.some.injEq] at h
      simp [h]
  | cons s start ih =>
      cases text with
      | nil => simp [Text.dropStart?] at h
      | cons c text =>
          simp only [Text.dropStart?] at h
          split at h
          · exact Nat.le_succ_of_le (ih h)
          · simp at h

theorem length_of_readHead {text rest : List Char} {head : GroupHead}
    (h : readHead? text = some (head, rest)) : rest.length ≤ text.length := by
  have body : ((Text.dropStart? "not.".toList text).getD text).length ≤ text.length := by
    cases hd : Text.dropStart? "not.".toList text with
    | none => simp
    | some r => simpa using length_of_dropStart hd
  unfold readHead? at h
  dsimp only at h
  split at h
  · rename_i hr
    simp only [Option.some.injEq, Prod.mk.injEq] at h
    have := length_of_dropStart hr
    rw [← h.2]
    omega
  · obtain ⟨r, hr, he⟩ := Option.map_eq_some_iff.mp h
    simp only [Prod.mk.injEq] at he
    have := length_of_dropStart hr
    rw [← he.2]
    omega

theorem length_of_nestedGroup {member text : List Char} {head : GroupHead}
    (h : nestedGroup? member = some (head, text)) : text.length ≤ member.length := by
  unfold nestedGroup? at h
  split at h
  · rename_i hr
    simp only [Option.some.injEq, Prod.mk.injEq] at h
    rw [← h.2]
    exact length_of_readHead hr
  · simp at h

theorem length_of_mem_groupMembers {joint : Joint} {body : List Char} {ms : List (List Char)}
    (h : groupMembers joint body = .ok ms) : ∀ m ∈ ms, m.length ≤ body.length := by
  intro m hm
  unfold groupMembers at h
  cases hs : Grammar.splitTopLevel ',' body with
  | error e => simp [hs, bind, Except.bind] at h
  | ok parts =>
      simp only [hs, bind, Except.bind, pure, Except.pure] at h
      split at h
      · simp at h
      · simp only [Except.ok.injEq] at h
        subst h
        obtain ⟨p, hp, rfl⟩ := List.mem_map.mp hm
        exact Nat.le_trans (Grammar.length_trim_le p)
          (Grammar.length_of_mem_splitTopLevel hs p hp)

theorem length_of_unwrap {opener closer : Char} {what : String} {text body : List Char}
    (h : Grammar.unwrap opener closer what text = .ok body) : body.length + 2 = text.length := by
  unfold Grammar.unwrap at h
  split at h
  · simp only [Except.ok.injEq] at h
    subst h
    exact Grammar.length_of_inside (by assumption)
  · simp at h

def readGroup (head : GroupHead) (body : List Char) : Outcome Filter :=
  match hb : groupMembers head.joint body with
  | .error e => .error e
  | .ok members =>
      let parts := members.attach.mapM fun ⟨member, hm⟩ =>
        match hn : nestedGroup? member with
        | none => readLeaf member
        | some (inner, text) =>
            match hu : Grammar.unwrap '(' ')' inner.joint.word text with
            | .error e => .error e
            | .ok innerBody =>
                have : innerBody.length < body.length := by
                  have a := length_of_mem_groupMembers hb member hm
                  have b := length_of_nestedGroup hn
                  have c := length_of_unwrap hu
                  omega
                readGroup inner innerBody
      parts.map fun fs => negateIf head.negated (head.joint.join fs)
termination_by body.length

def readLogic (key expression : List Char) : Outcome Filter :=
  match logicKey? key with
  | none => .error (.malformed ("\"" ++ String.ofList key ++ "\" is not a logic operator"))
  | some head => do
      let body ← Grammar.unwrap '(' ')' (String.ofList key) (Text.trim expression)
      readGroup head body

end TableServer.Filter
