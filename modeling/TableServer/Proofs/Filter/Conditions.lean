import TableServer.Filter.Reader
import TableServer.Proofs.Text.Parts

/-! Conditions as they are written, `operator.literal`. The first point ends the operator, so that a
literal is kept whatever it holds. -/
namespace TableServer.Filter

def expression (operator : Operator) (literal : List Char) : List Char :=
  operator.name.toList ++ '.' :: literal

theorem read_expression (column literal : List Char) (operator : Operator) :
    read column (expression operator literal) = (Test.read operator literal).map fun test =>
      .condition ⟨String.ofList column, String.ofList literal, test⟩ := by
  have positive : Text.dropStart? "not.".toList (expression operator literal) = none := by
    cases operator <;> rfl
  have cut : Text.cut? '.' (expression operator literal) =
      some (operator.name.toList, literal) := by
    refine Text.cut?_append ?_ literal
    cases operator <;> decide
  have named : Operator.read operator.name.toList = .ok operator := by
    cases operator <;> rfl
  simp only [read, positive, Option.getD_none, cut, named, bind, Except.bind]
  cases Test.read operator literal with
  | error e => rfl
  | ok test => rfl

/-- The expression is read as a filter of the column, which answers so for the row. -/
def Answers (column expression : List Char) (row : Value) (b : Bool) : Prop :=
  ∃ f, read column expression = .ok f ∧ f.holds row = .ok b

variable {column literal : List Char} {operator : Operator} {test : Test}
  {members : Members} {b : Bool}

theorem answers_expression_iff (told : Test.read operator literal = .ok test) :
    Answers column (expression operator literal) (.object members) b ↔
      (resolveColumn members (String.ofList column)).map test.holds = .ok b := by
  have read : read column (expression operator literal) =
      .ok (.condition ⟨String.ofList column, String.ofList literal, test⟩) := by
    rw [read_expression, told, Except.map]
  constructor
  · rintro ⟨f, hf, answer⟩
    cases read.symm.trans hf
    exact answer
  · intro answer
    exact ⟨_, read, answer⟩

theorem answers_expression {v : Value} (told : Test.read operator literal = .ok test)
    (held : resolveColumn members (String.ofList column) = .ok v) :
    Answers column (expression operator literal) (.object members) (test.holds v) := by
  rw [answers_expression_iff told, held, Except.map]

end TableServer.Filter
