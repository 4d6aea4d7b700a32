import TableServer.Grammar.Literal
import TableServer.Select.Basic

/-! Select lists read from text: `*`, columns `alias:column::cast`, whose cast is dropped, and
embeds `alias:relation!hint(select list)`. -/
namespace TableServer.Projection

/-- An alias in front of a single colon, and the name behind it. The name stands on one line. -/
def splitAlias (item : List Char) : List Char × Option (List Char) :=
  match Text.cut? ':' item with
  | some (a :: label, n :: name) =>
      if n = ':' ∨ '\n' ∈ n :: name then (item, none)
      else (Text.trim (n :: name), some (Text.trim (a :: label)))
  | _ => (item, none)

def readColumn (item : List Char) : ColumnRef :=
  let (name, label) := splitAlias item
  ⟨String.ofList (Text.trim (Text.beforeMark [':', ':'] name)), label.map String.ofList⟩

def embedParts? (item : List Char) : Option (List Char × List Char) :=
  match Text.cut? '(' item with
  | some (head, rest) => if rest.getLast? = some ')' then some (head, rest.dropLast) else none
  | none => none

def readEmbed (item head : List Char) : Outcome Embed :=
  let (target, label) := splitAlias (Text.trim head)
  match Text.splitOn '!' target with
  | (c :: relation) :: hints =>
      .ok ⟨String.ofList (Text.trim (c :: relation)), label.map String.ofList,
        hints.contains "inner".toList⟩
  | _ => .error (.malformed ("Invalid embedded resource \"" ++ String.ofList item ++ "\""))

inductive Item where
  | wildcard
  | column (c : ColumnRef)
  | embed (e : Embed) (inner : Projection)

def add (p : Projection) : Item → Projection
  | .wildcard => { p with wildcard := true }
  | .column c => { p with columns := p.columns ++ [c] }
  | .embed e inner => { p with embeds := p.embeds ++ [(e, inner)] }

def ofItems (items : List Item) : Projection :=
  items.foldl add ⟨false, [], []⟩

def listedItems (text : List Char) : Outcome (List (List Char)) :=
  (Grammar.splitTopLevel ',' text).map fun parts =>
    (parts.map Text.trim).filter (!·.isEmpty)

theorem length_of_cut {mark : Char} {text before behind : List Char}
    (h : Text.cut? mark text = some (before, behind)) : behind.length < text.length := by
  induction text generalizing before with
  | nil => simp [Text.cut?] at h
  | cons c rest ih =>
      simp only [Text.cut?] at h
      split at h
      · simp only [Option.some.injEq, Prod.mk.injEq] at h
        simp [← h.2]
      · obtain ⟨⟨b, e⟩, hp, he⟩ := Option.map_eq_some_iff.mp h
        simp only [Prod.mk.injEq] at he
        have := ih (show Text.cut? mark rest = some (b, behind) by rw [hp, he.2])
        simp
        omega

theorem length_of_embedParts {item head body : List Char}
    (h : embedParts? item = some (head, body)) : body.length < item.length := by
  unfold embedParts? at h
  split at h
  · rename_i hc
    split at h
    · simp only [Option.some.injEq, Prod.mk.injEq] at h
      have := length_of_cut hc
      rw [← h.2]
      simp
      omega
    · simp at h
  · simp at h

theorem length_of_mem_listedItems {text : List Char} {items : List (List Char)}
    (h : listedItems text = .ok items) : ∀ item ∈ items, item.length ≤ text.length := by
  intro item hi
  unfold listedItems at h
  cases hs : Grammar.splitTopLevel ',' text with
  | error e => simp [hs, Except.map] at h
  | ok parts =>
      simp only [hs, Except.map, Except.ok.injEq] at h
      subst h
      obtain ⟨p, hp, rfl⟩ := List.mem_map.mp (List.mem_filter.mp hi).1
      exact Nat.le_trans (Grammar.length_trim_le p) (Grammar.length_of_mem_splitTopLevel hs p hp)

def read (text : List Char) : Outcome Projection :=
  match hl : listedItems text with
  | .error e => .error e
  | .ok items =>
      let found : Outcome (List Item) := items.attach.mapM fun ⟨item, hi⟩ =>
        if item = ['*'] then .ok .wildcard
        else
          match he : embedParts? item with
          | none => .ok (.column (readColumn item))
          | some (head, body) =>
              match readEmbed item head with
              | .error e => .error e
              | .ok embed =>
                  have : body.length < text.length := by
                    have a := length_of_mem_listedItems hl item hi
                    have b := length_of_embedParts he
                    omega
                  (read body).map (Item.embed embed)
      found.map ofItems
termination_by text.length

end TableServer.Projection
