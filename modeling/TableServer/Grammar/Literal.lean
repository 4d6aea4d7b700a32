import TableServer.Grammar.TopLevel
import TableServer.Text.Blank
import TableServer.Value.Reader

/-! Literals of list items: wrapping brackets and double quotes. -/
namespace TableServer.Grammar

/-- The text between an opening and a closing mark at the ends. -/
def inside? (opener closer : Char) : List Char → Option (List Char)
  | c :: rest => if c = opener ∧ rest.getLast? = some closer then some rest.dropLast else none
  | [] => none

def unwrap (opener closer : Char) (what : String) (text : List Char) : Outcome (List Char) :=
  match inside? opener closer text with
  | some body => .ok body
  | none =>
      .error (.malformed (what ++ " expects a value wrapped in \"" ++
        String.ofList [opener, closer] ++ "\", got \"" ++ String.ofList text ++ "\""))

/-- Trims an item and removes double quotes around it. Inside them JSON escapes count; where the
quotes hold no JSON string, they hold the characters as they stand. -/
def unquote (item : List Char) : Codes :=
  let item := Text.trim item
  match inside? '"' '"' item with
  | none => .ofChars item
  | some body =>
      match Value.read (.ofChars item) with
      | .ok (.string s) => s
      | _ => .ofChars body

def listItems (body : List Char) : Outcome (List Codes) :=
  if (Text.trim body).isEmpty then .ok []
  else (splitTopLevel ',' body).map fun parts => parts.map unquote

theorem length_of_inside {a b : Char} {text body : List Char} (h : inside? a b text = some body) :
    body.length + 2 = text.length := by
  unfold inside? at h
  split at h
  · rename_i c rest
    split at h
    · rename_i ends
      simp only [Option.some.injEq] at h
      subst h
      cases rest with
      | nil => simp at ends
      | cons d rest => simp
    · simp at h
  · simp at h

theorem length_trim_le (text : List Char) : (Text.trim text).length ≤ text.length := by
  unfold Text.trim Text.trimWhere
  rw [List.length_reverse]
  refine Nat.le_trans (List.dropWhile_sublist _).length_le ?_
  rw [List.length_reverse]
  exact (List.dropWhile_sublist _).length_le

end TableServer.Grammar
