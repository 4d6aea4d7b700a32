import TableServer.Text.Quoted
import TableServer.Value.Printer

/-! Values as summaries show them: texts in single quotes, and words of their own for null and
the booleans. -/
namespace TableServer.Value

mutual

def literal : Value → String
  | null => "None"
  | bool true => "True"
  | bool false => "False"
  | number n => n.text .plain
  | string s => Text.quoted s
  | array items => "[" ++ literalItems items ++ "]"
  | object members => "\x7b" ++ literalMembers members ++ "\x7d"
termination_by structural v => v

def literalItems : List Value → String
  | [] => ""
  | [v] => literal v
  | v :: rest => literal v ++ ", " ++ literalItems rest
termination_by structural vs => vs

def literalMembers : Members → String
  | [] => ""
  | [(k, v)] => Text.quoted k ++ ": " ++ literal v
  | (k, v) :: rest => Text.quoted k ++ ": " ++ literal v ++ ", " ++ literalMembers rest
termination_by structural ms => ms

end

end TableServer.Value
