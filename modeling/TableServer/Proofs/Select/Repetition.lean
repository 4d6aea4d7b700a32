import TableServer.Proofs.Column.Path
import TableServer.Proofs.Entries
import TableServer.Proofs.Query.Stages
import TableServer.Select.Apply

/-! Projections applied twice. Where no item of a select list is renamed and none is a path, each
item puts what a row holds under a name back under this name, columns as they are and embeds
projected. A later item may replace what an earlier one of the same name has put, but the last one
finds its own work the next time. So projecting a second time changes nothing, at any depth. -/
namespace TableServer

/-- A column that is shown under its own name. -/
structure ColumnRef.Bare (c : ColumnRef) : Prop where
  unlabelled : ∀ l ∈ c.label, l = ""
  no_arrow : isPath c.name = false

def Embed.Bare (e : Embed) : Prop :=
  ∀ l ∈ e.label, l = ""

/-- Projections without aliases and paths, at any depth. -/
inductive Projection.Bare : Projection → Prop where
  | intro {p : Projection} : (∀ c ∈ p.columns, c.Bare) → (∀ e ∈ p.embeds, e.1.Bare) →
      (∀ e ∈ p.embeds, Bare e.2) → Bare p

theorem ColumnRef.Bare.outputKey_eq {c : ColumnRef} (h : c.Bare) : c.outputKey = c.name := by
  have plain : ColumnRef.outputKey.plainKey c.name = c.name := by
    rw [ColumnRef.outputKey.plainKey, Path.read_of_no_arrow h.no_arrow]
    rfl
  unfold ColumnRef.outputKey
  split
  · rename_i label told
    rw [if_pos (h.unlabelled label told), plain]
  · exact plain

theorem Embed.Bare.givenAlias?_eq {e : Embed} (h : e.Bare) : e.givenAlias? = none := by
  rw [Embed.givenAlias?, Option.filter_eq_none_iff]
  intro label told
  simpa using h label told

/-- A change that always succeeds and leaves its own results as they are. -/
def Settles {α : Type} (f : α → Except Fault α) : Prop :=
  ∀ a, ∃ b, f a = .ok b ∧ f b = .ok b

section

variable {f : Members → Except Fault Members}

mutual

theorem settles_overObjects (h : Settles f) : Settles (overObjects f)
  | .object members => by
      obtain ⟨result, first, second⟩ := h members
      exact ⟨.object result, by rw [overObjects, first, Except.map],
        by rw [overObjects, second, Except.map]⟩
  | .array items => by
      obtain ⟨results, first, second⟩ := settles_overItems h items
      exact ⟨.array results, by rw [overObjects, first, Except.map],
        by rw [overObjects, second, Except.map]⟩
  | .null => ⟨.null, rfl, rfl⟩
  | .bool b => ⟨.bool b, rfl, rfl⟩
  | .number n => ⟨.number n, rfl, rfl⟩
  | .string s => ⟨.string s, rfl, rfl⟩

theorem settles_overItems (h : Settles f) : Settles (overObjects.overItems f)
  | [] => ⟨[], rfl, rfl⟩
  | v :: rest => by
      obtain ⟨w, first, second⟩ := settles_overObjects h v
      obtain ⟨others, first', second'⟩ := settles_overItems h rest
      refine ⟨w :: others, ?_, ?_⟩
      · simp only [overObjects.overItems, first, first', Except.map]
      · simp only [overObjects.overItems, second, second', Except.map]

end

end

namespace Projection

/-- An item as the name under which it is found and shown, and what is shown of a value there. -/
structure Slot where
  name : Codes
  shown : Value → Except Fault Value

def columnSlot (c : ColumnRef) : Slot :=
  ⟨↑c.name, .ok⟩

def embedSlot (e : Embed × Projection) : Slot :=
  ⟨↑e.1.relation, overObjects e.2.ofMembers⟩

def slots (p : Projection) : List Slot :=
  p.columns.map columnSlot ++ p.embeds.map embedSlot

/-- What the slots that a row holds put into a result, one after the other. -/
inductive Puts (row : Members) : List Slot → Members → Prop where
  | nil : Puts row [] []
  | absent {s : Slot} {slots : List Slot} {patch : Members} :
      Entries.find? s.name row = none → Puts row slots patch → Puts row (s :: slots) patch
  | held {s : Slot} {slots : List Slot} {patch : Members} {v w : Value} :
      Entries.find? s.name row = some v → s.shown v = .ok w → Puts row slots patch →
        Puts row (s :: slots) ((s.name, w) :: patch)

variable {p : Projection} {row out patch : Members} {slots : List Slot}

theorem exists_puts (settle : ∀ s ∈ slots, Settles s.shown) (row : Members) :
    ∃ patch, Puts row slots patch := by
  induction slots with
  | nil => exact ⟨[], .nil⟩
  | cons s rest ih =>
      obtain ⟨patch, puts⟩ := ih fun t ht => settle t (List.mem_cons_of_mem s ht)
      cases held : Entries.find? s.name row with
      | none => exact ⟨patch, .absent held puts⟩
      | some v =>
          obtain ⟨w, shown, -⟩ := settle s List.mem_cons_self v
          exact ⟨_, .held held shown puts⟩

namespace Puts

theorem split {front back : List Slot} (h : Puts row (front ++ back) patch) :
    ∃ first second, Puts row front first ∧ Puts row back second ∧ patch = first ++ second := by
  induction front generalizing patch with
  | nil => exact ⟨[], patch, .nil, h, rfl⟩
  | cons s front ih =>
      cases h with
      | absent missing rest =>
          obtain ⟨first, second, puts, puts', rfl⟩ := ih rest
          exact ⟨first, second, .absent missing puts, puts', rfl⟩
      | held found shown rest =>
          obtain ⟨first, second, puts, puts', rfl⟩ := ih rest
          exact ⟨_, second, .held found shown puts, puts', rfl⟩

theorem not_mem_names (h : Puts row slots patch) {name : Codes}
    (missing : Entries.find? name row = none) : name ∉ Entries.names patch := by
  induction h with
  | nil => exact List.not_mem_nil
  | absent _ _ ih => exact ih
  | held found _ _ ih =>
      refine fun there => (List.mem_cons.mp there).elim ?_ ih
      rintro rfl
      cases missing.symm.trans found

/-- A row that lacks what the first row lacked, and holds what was put last under each name, is
given the same in the end. -/
theorem again (h : Puts row slots patch) (settle : ∀ s ∈ slots, Settles s.shown)
    (lacks : ∀ s ∈ slots, Entries.find? s.name row = none → Entries.find? s.name out = none)
    (holds : ∀ name w, Entries.find? name patch.reverse = some w →
      Entries.find? name out = some w) :
    ∃ other, Puts out slots other ∧ Entries.AgreeInEnd patch other := by
  induction h with
  | nil => exact ⟨[], .nil, .nil⟩
  | @absent s slots patch missing _ ih =>
      obtain ⟨other, puts, agree⟩ := ih (fun t ht => settle t (List.mem_cons_of_mem s ht))
        (fun t ht => lacks t (List.mem_cons_of_mem s ht)) holds
      exact ⟨other, .absent (lacks s List.mem_cons_self missing) puts, agree⟩
  | @held s slots patch v w found shown _ ih =>
      rw [List.reverse_cons] at holds
      have settled := settle s List.mem_cons_self
      obtain ⟨other, puts, agree⟩ := ih (fun t ht => settle t (List.mem_cons_of_mem s ht))
        (fun t ht => lacks t (List.mem_cons_of_mem s ht)) fun name u last => by
          refine holds name u ?_
          rw [Entries.find?_append, last, Option.some_or]
      cases last : Entries.find? s.name patch.reverse with
      | some u =>
          -- A later slot puts its own work here.
          have later : s.name ∈ Entries.names patch :=
            List.mem_map.mpr ⟨_, List.mem_reverse.mp (Entries.mem_of_find? last), rfl⟩
          have there := holds s.name u (by rw [Entries.find?_append, last, Option.some_or])
          obtain ⟨w', shown', -⟩ := settled u
          exact ⟨_, .held there shown' puts, .cons (.inr later) agree⟩
      | none =>
          have there := holds s.name w (by simp [Entries.find?_append, last, Entries.find?])
          obtain ⟨w', shown', again⟩ := settled v
          cases shown.symm.trans shown'
          exact ⟨_, .held there again puts, .cons (.inl rfl) agree⟩

theorem again_in_result (h : Puts row slots patch) (settle : ∀ s ∈ slots, Settles s.shown)
    {start : Members}
    (among : ∀ name, Entries.find? name row = none → Entries.find? name start = none) :
    ∃ other, Puts (Entries.merge start patch) slots other ∧ Entries.AgreeInEnd patch other := by
  refine h.again settle (fun s _ missing => ?_) fun name w last => ?_
  · have unput : Entries.find? s.name patch.reverse = none := by
      rw [Entries.find?_eq_none_iff, Entries.names, List.map_reverse, List.mem_reverse]
      exact h.not_mem_names missing
    rw [Entries.find?_merge_reverse, unput, Option.none_or, among s.name missing]
  · rw [Entries.find?_merge_reverse, last, Option.some_or]

end Puts

theorem addColumns_of_puts {columns : List ColumnRef} (bare : ∀ c ∈ columns, c.Bare)
    (h : Puts row (columns.map columnSlot) patch) (result : Members) :
    addColumns row columns result = .ok (Entries.merge result patch) := by
  induction columns generalizing patch result with
  | nil =>
      cases h
      rfl
  | cons c rest ih =>
      have plain := bare c List.mem_cons_self
      have others := fun d hd => bare d (List.mem_cons_of_mem c hd)
      rw [addColumns, plain.no_arrow, Bool.false_or, Entries.has]
      rw [List.map_cons] at h
      cases h with
      | absent missing rest =>
          change Entries.find? ↑c.name row = none at missing
          rw [missing, if_neg (by simp), ih others rest]
      | @held _ _ _ v w found shown rest =>
          change Entries.find? ↑c.name row = some v at found
          cases shown
          rw [found, Option.isSome_some, if_pos rfl,
            resolveColumn_of_no_arrow plain.no_arrow, found]
          exact plain.outputKey_eq.symm ▸ ih others rest _

theorem addEmbeds_of_puts {embeds : List (Embed × Projection)} (bare : ∀ e ∈ embeds, e.1.Bare)
    (h : Puts row (embeds.map embedSlot) patch) (result : Members) :
    addEmbeds embeds row result = .ok (Entries.merge result patch) := by
  induction embeds generalizing patch result with
  | nil =>
      cases h
      rfl
  | cons f rest ih =>
      obtain ⟨e, inner⟩ := f
      have plain := (bare (e, inner) List.mem_cons_self).givenAlias?_eq
      have others := fun d hd => bare d (List.mem_cons_of_mem _ hd)
      rw [addEmbeds]
      rw [List.map_cons] at h
      cases h with
      | absent missing rest =>
          change Entries.find? ↑e.relation row = none at missing
          rw [missing]
          exact ih others rest result
      | @held _ _ _ v w found shown rest =>
          change Entries.find? ↑e.relation row = some v at found
          change overObjects inner.ofMembers v = .ok w at shown
          rw [found]
          simp only [shown, clearRelation, plain, Embed.outputKey]
          exact ih others rest _

/-- A projection without aliases and paths merges what its slots put into all of a row, or into
nothing. -/
theorem ofMembers_of_puts (bare : p.Bare) (h : Puts row p.slots patch) :
    p.ofMembers row = .ok (Entries.merge (if p.wildcard then row else []) patch) := by
  obtain ⟨wildcard, columns, embeds⟩ := p
  obtain ⟨own, labels, -⟩ := bare
  obtain ⟨first, second, puts, puts', rfl⟩ := h.split
  rw [ofMembers, addColumns_of_puts own puts, Entries.merge_append]
  exact addEmbeds_of_puts labels puts' _

theorem settles_ofMembers (bare : p.Bare) : Settles p.ofMembers := by
  induction bare with
  | @intro p own labels inner ih =>
      intro row
      have settle : ∀ s ∈ p.slots, Settles s.shown := by
        intro s hs
        rcases List.mem_append.mp hs with column | embed
        · obtain ⟨c, -, rfl⟩ := List.mem_map.mp column
          exact fun v => ⟨v, rfl, rfl⟩
        · obtain ⟨e, he, rfl⟩ := List.mem_map.mp embed
          exact settles_overObjects (ih e he)
      obtain ⟨patch, puts⟩ := exists_puts settle row
      have first := ofMembers_of_puts (.intro own labels inner) puts
      have among : ∀ name, Entries.find? name row = none →
          Entries.find? name (if p.wildcard then row else []) = none := by
        intro name missing
        split
        · exact missing
        · rfl
      obtain ⟨other, puts', agree⟩ := puts.again_in_result settle among
      refine ⟨_, first, ?_⟩
      rw [ofMembers_of_puts (.intro own labels inner) puts', ← agree.merge_eq]
      cases p.wildcard with
      | true => exact congrArg Except.ok (Entries.merge_merge_self row patch)
      | false => rfl

/-- Projecting rows a second time changes nothing, not even the order of members, where the select
list has neither aliases nor paths at any depth. -/
theorem rows_again (bare : p.Bare) {rows : List Value}
    (objects : ∀ row ∈ rows, row.isObject = true) :
    ∃ shown, p.rows rows = .ok shown ∧ p.rows shown = .ok shown := by
  have settles := settles_ofMembers bare
  induction rows with
  | nil => exact ⟨[], rfl, rfl⟩
  | cons r rest ih =>
      obtain ⟨others, first, second⟩ := ih fun row hr => objects row (List.mem_cons_of_mem r hr)
      have object := objects r List.mem_cons_self
      cases r with
      | object members =>
          obtain ⟨result, once, twice⟩ := settles members
          refine ⟨.object result :: others, ?_, ?_⟩
          · simp only [rows, row, once, first, Except.map]
          · simp only [rows, row, twice, second, Except.map]
      | _ => cases object

def authorThrice : Projection :=
  ⟨false, [⟨"author", none⟩, ⟨"title", none⟩, ⟨"id", none⟩],
    [(⟨"author", none, false⟩, ⟨true, [⟨"id", none⟩], []⟩),
      (⟨"author", none, false⟩, ⟨false, [⟨"name", none⟩, ⟨"id", none⟩], []⟩),
      (⟨"comments", none, true⟩, ⟨false, [⟨"id", none⟩], []⟩)]⟩

theorem authorThrice_bare : authorThrice.Bare := by
  have column (name : String) (h : isPath name = false) : ColumnRef.Bare ⟨name, none⟩ := ⟨nofun, h⟩
  have leaf (wildcard : Bool) {columns : List ColumnRef} (h : ∀ c ∈ columns, c.Bare) :
      Projection.Bare ⟨wildcard, columns, []⟩ := .intro h nofun nofun
  refine .intro ?_ ?_ ?_ <;> simp only [authorThrice, List.forall_mem_cons, List.not_mem_nil,
    false_imp_iff, implies_true, and_true]
  · exact ⟨column _ (by decide), column _ (by decide), column _ (by decide)⟩
  · exact ⟨nofun, nofun, nofun⟩
  · exact ⟨leaf true (by simpa using column _ (by decide)),
      leaf false (by simpa using ⟨column _ (by decide), column _ (by decide)⟩),
      leaf false (by simpa using column _ (by decide))⟩

def commentedPost : Value :=
  .object [("id", .ofInt 1), ("author", .object [("id", .ofInt 7), ("name", .string "Ada")]),
    ("comments", .array [.object [("likes", .ofInt 2), ("id", .ofInt 3)], .null])]

theorem rows_again_of_authorThrice :
    ∃ shown, authorThrice.rows [commentedPost] = .ok shown ∧
      shown = [.object [("author", .object [("name", .string "Ada"), ("id", .ofInt 7)]),
        ("id", .ofInt 1), ("comments", .array [.object [("id", .ofInt 3)], .null])]] ∧
      authorThrice.rows shown = .ok shown := by
  have objects : ∀ row ∈ [commentedPost], row.isObject = true := by decide
  obtain ⟨shown, first, second⟩ := rows_again authorThrice_bare objects
  exact ⟨shown, first, (Except.ok.inj first).symm, second⟩

end Projection

end TableServer
