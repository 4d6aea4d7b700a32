import TableServer.Proofs.Faults
import TableServer.Proofs.Query.Stages
import TableServer.Proofs.Select.Reader

/-! The columns of select lists, those of embedded select lists among them. They stand in the text
of the list, and projecting rows fails only on a path among them. -/
namespace TableServer.Projection

mutual

def columnNames : Projection → List String
  | ⟨_, columns, embeds⟩ => columns.map ColumnRef.name ++ columnNamesOfAll embeds
termination_by structural p => p

def columnNamesOfAll : List (Embed × Projection) → List String
  | [] => []
  | (_, inner) :: rest => columnNames inner ++ columnNamesOfAll rest
termination_by structural es => es

end

variable {sources : List (List Char)}

def SpeltIn (sources : List (List Char)) (p : Projection) : Prop :=
  ∀ c ∈ p.columnNames, Spelt sources c.toList

theorem mem_columnNamesOfAll {embeds : List (Embed × Projection)} {c : String} :
    c ∈ columnNamesOfAll embeds ↔ ∃ e ∈ embeds, c ∈ e.2.columnNames := by
  induction embeds with
  | nil => simp [columnNamesOfAll]
  | cons e rest ih => simp [columnNamesOfAll, ih]

theorem speltIn_iff {p : Projection} : p.SpeltIn sources ↔
    (∀ c ∈ p.columns, Spelt sources c.name.toList) ∧ ∀ e ∈ p.embeds, e.2.SpeltIn sources := by
  obtain ⟨wildcard, columns, embeds⟩ := p
  simp only [SpeltIn, columnNames, List.mem_append, List.mem_map, mem_columnNamesOfAll]
  constructor
  · intro h
    exact ⟨fun c hc => h c.name (.inl ⟨c, hc, rfl⟩), fun e he c hc => h c (.inr ⟨e, he, hc⟩)⟩
  · rintro ⟨own, inner⟩ c (⟨d, hd, rfl⟩ | ⟨e, he, hc⟩)
    · exact own d hd
    · exact inner e he c hc

/-! ## Reading -/

theorem infix_of_splitAlias (item : List Char) : (splitAlias item).1 <:+: item := by
  unfold splitAlias
  split
  · rename_i a label n name cut
    split
    · exact List.infix_rfl
    · exact (Text.trim_infix _).trans (Text.infix_of_cut? cut).2
  · exact List.infix_rfl

theorem readColumn_name (item : List Char) : (readColumn item).name.toList <:+: item := by
  unfold readColumn
  simp only [String.toList_ofList]
  exact (Text.trim_infix _).trans
    ((Text.beforeMark_prefix _ _).isInfix.trans (infix_of_splitAlias item))

def Item.SpeltIn (sources : List (List Char)) : Item → Prop
  | wildcard => True
  | column c => Spelt sources c.name.toList
  | embed _ inner => inner.SpeltIn sources

theorem speltIn_ofItems {items : List Item} (h : ∀ item ∈ items, item.SpeltIn sources) :
    (ofItems items).SpeltIn sources := by
  suffices folded : ∀ p : Projection, p.SpeltIn sources → (items.foldl add p).SpeltIn sources from
    folded ⟨false, [], []⟩ (speltIn_iff.mpr ⟨by simp, by simp⟩)
  induction items with
  | nil => exact fun p hp => hp
  | cons item rest ih =>
      intro p hp
      refine ih (fun other ho => h other (by simp [ho])) _ ?_
      have head := h item (by simp)
      obtain ⟨own, inner⟩ := speltIn_iff.mp hp
      cases item with
      | wildcard => exact speltIn_iff.mpr ⟨own, inner⟩
      | column c =>
          refine speltIn_iff.mpr ⟨?_, inner⟩
          simp only [add, List.mem_append, List.mem_singleton]
          rintro d (hd | rfl)
          · exact own d hd
          · exact head
      | embed e q =>
          refine speltIn_iff.mpr ⟨own, ?_⟩
          simp only [add, List.mem_append, List.mem_singleton]
          rintro f (hf | rfl)
          · exact inner f hf
          · exact head

theorem infix_of_embedParts? {item head body : List Char}
    (h : embedParts? item = some (head, body)) : body <:+: item := by
  unfold embedParts? at h
  split at h
  · rename_i cut
    split at h
    · cases h
      exact (List.dropLast_prefix _).isInfix.trans (Text.infix_of_cut? cut).2
    · cases h
  · cases h

theorem readEmbed_yields (item head : List Char) :
    FailsOnly (Failure.Due sources) (readEmbed item head) := by
  unfold readEmbed
  dsimp only
  split <;> trivial

theorem listedItems_yields (text : List Char) :
    Yields (fun items => ∀ item ∈ items, item <:+: text) (Failure.Due sources)
      (listedItems text) := by
  refine .map (Grammar.splitTopLevel_yields ',' text) fun parts inside item hi => ?_
  obtain ⟨part, hp, rfl⟩ := List.mem_map.mp (List.mem_filter.mp hi).1
  exact (Text.trim_infix part).trans (inside part hp)

theorem read_yields {text : List Char} (spelt : Spelt sources text) :
    Yields (SpeltIn sources) (Failure.Due sources) (read text) := by
  induction hn : text.length using Nat.strongRecOn generalizing text with
  | _ n ih =>
      subst hn
      rw [read_eq]
      refine .bind (listedItems_yields text) fun items inside => ?_
      refine .map (.mapM (q := Item.SpeltIn sources) fun item hi => ?_) fun _ => speltIn_ofItems
      have told := spelt.part (inside item hi)
      unfold readItem
      split
      · trivial
      · split
        · exact told.part (readColumn_name item)
        · rename_i head body parts
          have shorter : body.length < text.length := by
            have a := (inside item hi).length_le
            have b := length_of_embedParts parts
            omega
          have inner := ih _ shorter (told.part (infix_of_embedParts? parts)) rfl
          exact (readEmbed_yields item head).elim (fun e _ _ => inner.map fun _ hp => hp)
            fun _ due => due

/-! ## Projecting -/

mutual

theorem overObjects_yields {f : Members → Except Fault Members}
    (each : ∀ members, FailsOnly (Fault.Due sources) (f members)) :
    ∀ v : Value, FailsOnly (Fault.Due sources) (overObjects f v)
  | .object members => .map (each members) fun _ _ => trivial
  | .array items => .map (overItems_yields each items) fun _ _ => trivial
  | .null => trivial
  | .bool _ => trivial
  | .number _ => trivial
  | .string _ => trivial

theorem overItems_yields {f : Members → Except Fault Members}
    (each : ∀ members, FailsOnly (Fault.Due sources) (f members)) :
    ∀ items : List Value, FailsOnly (Fault.Due sources) (overObjects.overItems f items)
  | [] => trivial
  | v :: rest => by
      have head := overObjects_yields each v
      unfold overObjects.overItems
      exact head.elim (fun w _ _ => (overItems_yields each rest).map fun _ _ => trivial)
        fun _ due => due

end

theorem addColumns_yields {columns : List ColumnRef}
    (spelt : ∀ c ∈ columns, Spelt sources c.name.toList) (row result : Members) :
    FailsOnly (Fault.Due sources) (addColumns row columns result) := by
  induction columns generalizing result with
  | nil => trivial
  | cons c rest ih =>
      have tail := ih fun d hd => spelt d (by simp [hd])
      have head := resolveColumn_yields (spelt c (by simp)) row
      unfold addColumns
      split
      · exact head.elim (fun v _ _ => tail _) fun _ due => due
      · exact tail _

mutual

theorem ofMembers_yields : ∀ p : Projection, p.SpeltIn sources → ∀ row : Members,
    FailsOnly (Fault.Due sources) (p.ofMembers row)
  | ⟨wildcard, columns, embeds⟩, spelt, row => by
      obtain ⟨own, inner⟩ := speltIn_iff.mp spelt
      have added := addColumns_yields own row (if wildcard then row else [])
      unfold ofMembers
      exact added.elim (fun result _ _ => addEmbeds_yields embeds inner row result)
        fun _ due => due
termination_by structural p => p

theorem addEmbeds_yields : ∀ embeds : List (Embed × Projection),
    (∀ e ∈ embeds, e.2.SpeltIn sources) → ∀ row result : Members,
      FailsOnly (Fault.Due sources) (addEmbeds embeds row result)
  | [], _, _, _ => trivial
  | (e, inner) :: rest, spelt, row, result => by
      have tail := addEmbeds_yields rest (fun f hf => spelt f (by simp [hf])) row
      have each := ofMembers_yields inner (spelt (e, inner) (by simp))
      unfold addEmbeds
      split
      · exact tail result
      · rename_i related _
        have head := overObjects_yields each related
        exact head.elim (fun v _ _ => tail _) fun _ due => due
termination_by structural embeds => embeds

end

theorem rows_yields {p : Projection} (spelt : p.SpeltIn sources) {rows : List Value}
    (objects : ∀ row ∈ rows, row.isObject = true) :
    FailsOnly (Fault.Due sources) (p.rows rows) := by
  rw [rows_eq_mapM]
  refine (Yields.mapM (q := fun _ => True) fun row hr => ?_).imp fun _ _ _ => trivial
  have object := objects row hr
  cases row with
  | object members => exact (ofMembers_yields p spelt members).map fun _ _ => trivial
  | _ => cases object

end TableServer.Projection
