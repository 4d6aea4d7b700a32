import TableServer.Proofs.Outcome
import TableServer.Select.Reader

/-! The select list as its reader takes it: its items one by one, and the select lists within their
parentheses in the same way. -/
namespace TableServer.Projection

def readItem (item : List Char) : Outcome Item :=
  if item = ['*'] then .ok .wildcard
  else
    match embedParts? item with
    | none => .ok (.column (readColumn item))
    | some (head, body) =>
        match readEmbed item head with
        | .error e => .error e
        | .ok embed => (read body).map (Item.embed embed)

theorem read_eq (text : List Char) :
    read text = (listedItems text).bind fun items => (items.mapM readItem).map ofItems := by
  rw [read]
  split
  · rename_i e hl
    rw [hl]
    rfl
  · rename_i items hl
    rw [List.mapM_subtype (g := readItem), List.unattach_attach]
    · exact (congrArg (fun found : Outcome (List (List Char)) =>
        found.bind fun items => (items.mapM readItem).map ofItems) hl).symm
    · intro item hi
      unfold readItem
      dsimp only
      split
      · rfl
      · split
        · rename_i none
          simp only [none]
        · rename_i head body parts
          cases read : readEmbed item head <;> simp only [parts, read]

end TableServer.Projection
