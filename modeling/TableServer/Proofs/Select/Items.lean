import Mathlib.Data.List.Nodup
import TableServer.Proofs.Entries
import TableServer.Proofs.Outcome
import TableServer.Select.Apply

/-! Items of a select list. Without a wildcard a projected row holds the columns and the embeds that
are found in the row, in the order of the list, each under its own key, and so does every object that
an embed projects. An embed with an alias takes away what stands under the name of its relation, also
where that is another item. -/
namespace TableServer

/-- An object that a value is or holds in a list, at any depth of lists. -/
inductive ObjectIn (members : Members) : Value → Prop where
  | here : ObjectIn members (.object members)
  | item {v : Value} {items : List Value} : v ∈ items → ObjectIn members v →
      ObjectIn members (.array items)

/-- Values that differ only in objects, which are related, at any depth of lists. -/
inductive OverObjects (r : Members → Members → Prop) : Value → Value → Prop where
  | object {members result : Members} : r members result →
      OverObjects r (.object members) (.object result)
  | array {items results : List Value} : List.Forall₂ (OverObjects r) items results →
      OverObjects r (.array items) (.array results)
  | other {v : Value} : v.kind ≠ .mapping → v.kind ≠ .sequence → OverObjects r v v

section OverObjects

variable {f : Members → Except Fault Members}
  {r : Members → Members → Prop}

mutual

theorem overObjects_related (each : ∀ members result, f members = .ok result → r members result) :
    ∀ v w, overObjects f v = .ok w → OverObjects r v w
  | .object members, w, h => by
      obtain ⟨result, hr, rfl⟩ := Outcome.map_eq_ok_iff.mp h
      exact .object (each members result hr)
  | .array items, w, h => by
      obtain ⟨results, hr, rfl⟩ := Outcome.map_eq_ok_iff.mp h
      exact .array (overItems_related each items results hr)
  | .null, w, h => by
      cases h
      exact .other (by decide) (by decide)
  | .bool _, w, h => by
      cases h
      exact .other nofun nofun
  | .number _, w, h => by
      cases h
      exact .other nofun nofun
  | .string _, w, h => by
      cases h
      exact .other nofun nofun

theorem overItems_related (each : ∀ members result, f members = .ok result → r members result) :
    ∀ items results, overObjects.overItems f items = .ok results →
      List.Forall₂ (OverObjects r) items results
  | [], results, h => by
      cases h
      exact .nil
  | v :: rest, results, h => by
      unfold overObjects.overItems at h
      split at h
      · cases h
      · rename_i w hw
        obtain ⟨others, ho, rfl⟩ := Outcome.map_eq_ok_iff.mp h
        exact .cons (overObjects_related each v w hw) (overItems_related each rest others ho)

end

mutual

theorem overObjects_fault {fault : Fault} :
    ∀ v, overObjects f v = .error fault → ∃ members, ObjectIn members v ∧ f members = .error fault
  | .object members, h => ⟨members, .here, Outcome.map_eq_error_iff.mp h⟩
  | .array items, h => by
      obtain ⟨v, hv, members, inside, failed⟩ := overItems_fault items (Outcome.map_eq_error_iff.mp h)
      exact ⟨members, .item hv inside, failed⟩
  | .null, h => nomatch h
  | .bool _, h => nomatch h
  | .number _, h => nomatch h
  | .string _, h => nomatch h

theorem overItems_fault {fault : Fault} :
    ∀ items, overObjects.overItems f items = .error fault →
      ∃ v ∈ items, ∃ members, ObjectIn members v ∧ f members = .error fault
  | [], h => nomatch h
  | v :: rest, h => by
      unfold overObjects.overItems at h
      split at h
      · rename_i first hf
        cases h
        exact ⟨v, List.mem_cons_self, overObjects_fault v hf⟩
      · obtain ⟨w, hw, found⟩ := overItems_fault rest (Outcome.map_eq_error_iff.mp h)
        exact ⟨w, List.mem_cons_of_mem v hw, found⟩

end

end OverObjects

namespace Projection

def outputKeys (p : Projection) : List String :=
  p.columns.map ColumnRef.outputKey ++ p.embeds.map (·.1.outputKey)

/-- Columns that are read from a row: paths, and those that it holds. -/
def readsColumn (row : Members) (c : ColumnRef) : Bool :=
  isPath c.name || Entries.has ↑c.name row

/-- An embed with an alias takes away what the result holds under the name of its relation, where
the row holds that relation. -/
def displaces (row : Members) (key : Codes) (e : Embed × Projection) : Bool :=
  e.1.givenAlias?.isSome && (e.1.relation : Codes) = key && Entries.has key row

/-- The columns that are read and that no embed takes away. -/
def keptColumns (p : Projection) (row : Members) : List ColumnRef :=
  (p.columns.filter (readsColumn row)).filter fun c => !p.embeds.any (displaces row ↑c.outputKey)

/-- The embeds whose relation the row holds and that no later one takes away. -/
def keptEmbeds (row : Members) : List (Embed × Projection) → List (Embed × Projection)
  | [] => []
  | e :: rest =>
      if Entries.has ↑e.1.relation row && !rest.any (displaces row ↑e.1.outputKey) then
        e :: keptEmbeds row rest
      else keptEmbeds row rest

/-- A result that holds the kept items, each under its key: a column with its value, and an embed with
what the row holds of its relation, projected by its own select list so that every object in it is
related to its projection by `inner`. -/
structure ShowsItems (inner : Projection → Members → Members → Prop) (p : Projection)
    (row result : Members) : Prop where
  keys : Entries.names result =
    (p.keptColumns row).map (Codes.ofString ·.outputKey) ++
      (keptEmbeds row p.embeds).map (Codes.ofString ·.1.outputKey)
  columns : ∀ c ∈ p.keptColumns row, ∃ v, resolveColumn row c.name = .ok v ∧
    Entries.find? ↑c.outputKey result = some v
  embeds : ∀ e ∈ keptEmbeds row p.embeds, ∃ related v,
    Entries.find? ↑e.1.relation row = some related ∧ overObjects e.2.ofMembers related = .ok v ∧
      Entries.find? ↑e.1.outputKey result = some v ∧ OverObjects (inner e.2) related v

/-- Projections that show their items to a depth, where they have no wildcard and their items have
different keys. -/
def ShowsTo : Nat → Projection → Members → Members → Prop
  | 0, _, _, _ => True
  | depth + 1, p, row, result =>
      p.wildcard = false → p.outputKeys.Nodup → ShowsItems (ShowsTo depth) p row result

/-- A fault of a path, in the row or in an object that an embed projects. -/
inductive Unresolved : Projection → Members → Fault → Prop where
  | column {p : Projection} {row : Members} {c : ColumnRef} {fault : Fault} :
      c ∈ p.columns → resolveColumn row c.name = .error fault → Unresolved p row fault
  | embed {p : Projection} {row members : Members} {e : Embed × Projection} {related : Value}
      {fault : Fault} : e ∈ p.embeds → Entries.find? ↑e.1.relation row = some related →
      ObjectIn members related → Unresolved e.2 members fault → Unresolved p row fault

variable {row result out : Members}

def ShowsColumn (row : Members) (c : ColumnRef) (e : Codes × Value) : Prop :=
  e.1 = c.outputKey ∧ resolveColumn row c.name = .ok e.2

def ShowsEmbed (row : Members) (f : Embed × Projection) (e : Codes × Value) : Prop :=
  e.1 = f.1.outputKey ∧ ∃ related, Entries.find? ↑f.1.relation row = some related ∧
    overObjects f.2.ofMembers related = .ok e.2

theorem addColumns_appends {columns : List ColumnRef}
    (fresh : (Entries.names result ++ columns.map (Codes.ofString ·.outputKey)).Nodup)
    (h : addColumns row columns result = .ok out) :
    ∃ shown, out = result ++ shown ∧
      List.Forall₂ (ShowsColumn row) (columns.filter (readsColumn row)) shown := by
  induction columns generalizing result with
  | nil =>
      cases h
      exact ⟨[], (List.append_nil _).symm, .nil⟩
  | cons c rest ih =>
      rw [List.map_cons] at fresh
      unfold addColumns at h
      split at h
      · rename_i read
        split at h
        · cases h
        · rename_i v resolved
          have absent : ↑c.outputKey ∉ Entries.names result :=
            fun there => (List.nodup_append.mp fresh).2.2 _ there _ List.mem_cons_self rfl
          rw [Entries.put_of_not_mem absent] at h
          obtain ⟨shown, rfl, each⟩ := ih (by simpa [Entries.names] using fresh) h
          refine ⟨(↑c.outputKey, v) :: shown, by simp, ?_⟩
          rw [List.filter_cons_of_pos (show readsColumn row c = true from read)]
          exact .cons ⟨rfl, resolved⟩ each
      · rename_i unread
        rw [List.filter_cons_of_neg (show ¬readsColumn row c = true from unread)]
        exact ih (fresh.sublist ((List.sublist_cons_self _ _).append_left _)) h

theorem clearRelation_eq_filter {e : Embed} {inner : Projection} {related : Value}
    (unique : (Entries.names result).Nodup) (held : Entries.find? ↑e.relation row = some related) :
    clearRelation e result = result.filter fun f => !displaces row f.1 (e, inner) := by
  have there : Entries.has ↑e.relation row = true := by simp [Entries.has, held]
  unfold clearRelation
  split
  · rename_i aliased
    rw [Entries.erase_eq_filter unique]
    refine List.filter_congr fun f _ => ?_
    by_cases same : ↑e.relation = f.1
    · simp [displaces, aliased, ← same, there]
    · simp [displaces, same]
  · rename_i plain
    refine (List.filter_eq_self.mpr fun f _ => ?_).symm
    simp [displaces, Bool.of_not_eq_true plain]

theorem addEmbeds_appends {embeds : List (Embed × Projection)}
    (fresh : (Entries.names result ++ embeds.map (Codes.ofString ·.1.outputKey)).Nodup)
    (h : addEmbeds embeds row result = .ok out) :
    ∃ shown, out = result.filter (fun e => !embeds.any (displaces row e.1)) ++ shown ∧
      List.Forall₂ (ShowsEmbed row) (keptEmbeds row embeds) shown := by
  induction embeds generalizing result with
  | nil =>
      cases h
      exact ⟨[], by simp, .nil⟩
  | cons f rest ih =>
      obtain ⟨e, inner⟩ := f
      rw [List.map_cons] at fresh
      unfold addEmbeds at h
      split at h
      · rename_i missing
        have absent : Entries.has ↑e.relation row = false := by simp [Entries.has, missing]
        have idle (key : Codes) : displaces row key (e, inner) = false := by
          by_cases same : ↑e.relation = key
          · simp [displaces, ← same, absent]
          · simp [displaces, same]
        obtain ⟨shown, rfl, each⟩ :=
          ih (fresh.sublist ((List.sublist_cons_self _ _).append_left _)) h
        refine ⟨shown, by simp [idle], ?_⟩
        rw [keptEmbeds, absent]
        exact each
      · rename_i related held
        split at h
        · cases h
        · rename_i v projected
          have unique : (Entries.names result).Nodup := fresh.of_append_left
          rw [clearRelation_eq_filter unique held] at h
          have kept : (Entries.names (result.filter fun f => !displaces row f.1 (e, inner))).Sublist
              (Entries.names result) := List.filter_sublist.map _
          have fresh' := fresh.sublist (kept.append_right _)
          have absent := fun there => (List.nodup_append.mp fresh').2.2 ↑e.outputKey there _
            List.mem_cons_self rfl
          rw [Entries.put_of_not_mem absent] at h
          obtain ⟨shown, rfl, each⟩ := ih (by simpa [Entries.names] using fresh') h
          have there : Entries.has ↑e.relation row = true := by simp [Entries.has, held]
          have both : (result.filter fun f => !displaces row f.1 (e, inner)).filter
              (fun f => !rest.any (displaces row f.1)) =
                result.filter fun f => !((e, inner) :: rest).any (displaces row f.1) := by
            rw [List.filter_filter]
            exact List.filter_congr fun f _ => by simp [Bool.and_comm]
          rw [List.filter_append, both, keptEmbeds, there, Bool.true_and]
          -- The new entry stays unless a later embed takes it away.
          cases taken : rest.any (displaces row ↑e.outputKey) with
          | true => exact ⟨shown, by simp [taken], each⟩
          | false =>
              refine ⟨(↑e.outputKey, v) :: shown, by simp [taken], ?_⟩
              exact .cons ⟨rfl, related, held, projected⟩ each

theorem find?_of_forall₂ {α : Type} {shows : α → Codes × Value → Prop} {key : α → Codes}
    {items : List α} {shown : Members} (each : List.Forall₂ shows items shown)
    (keyed : ∀ x e, shows x e → e.1 = key x) :
    Entries.names shown = items.map key ∧
      ∀ x ∈ items, ∃ v, (key x, v) ∈ shown ∧ shows x (key x, v) := by
  induction each with
  | nil => exact ⟨rfl, fun x hx => absurd hx List.not_mem_nil⟩
  | @cons x e items shown head _ ih =>
      obtain ⟨k, v⟩ := e
      obtain rfl := keyed x _ head
      obtain ⟨names, tail⟩ := ih
      refine ⟨congrArg (key x :: ·) names, List.forall_mem_cons.mpr ⟨?_, fun y hy => ?_⟩⟩
      · exact ⟨v, List.mem_cons_self, head⟩
      · obtain ⟨w, hw, told⟩ := tail y hy
        exact ⟨w, List.mem_cons_of_mem _ hw, told⟩

variable {p : Projection}

theorem keptEmbeds_sublist (row : Members) (embeds : List (Embed × Projection)) :
    (keptEmbeds row embeds).Sublist embeds := by
  induction embeds with
  | nil => exact .slnil
  | cons e rest ih =>
      rw [keptEmbeds]
      split
      · exact ih.cons_cons e
      · exact ih.cons e

theorem showsItems_of_ofMembers {inner : Projection → Members → Members → Prop}
    (each : ∀ q members shown, ofMembers q members = .ok shown → inner q members shown)
    (plain : p.wildcard = false) (distinct : p.outputKeys.Nodup) (h : p.ofMembers row = .ok result) :
    ShowsItems inner p row result := by
  obtain ⟨wildcard, columns, embeds⟩ := p
  cases plain
  have distinct : (columns.map (Codes.ofString ·.outputKey) ++
      embeds.map (Codes.ofString ·.1.outputKey)).Nodup := by
    simpa [outputKeys, Function.comp_def] using distinct.map fun _ _ => Codes.ofString_inj.mp
  unfold ofMembers at h
  split at h
  · cases h
  · rename_i read ha
    rw [if_neg Bool.false_ne_true] at ha
    obtain ⟨_, rfl, columnwise⟩ := addColumns_appends
      (by simpa [Entries.names] using distinct.of_append_left) ha
    obtain ⟨readNames, -⟩ := find?_of_forall₂ columnwise fun c e shows => shows.1
    have fresh : (Entries.names read ++ embeds.map (Codes.ofString ·.1.outputKey)).Nodup := by
      rw [readNames]
      exact distinct.sublist ((List.filter_sublist.map _).append_right _)
    obtain ⟨shown, rfl, embedwise⟩ := addEmbeds_appends fresh h
    have kept : List.Forall₂ (ShowsColumn row) (keptColumns ⟨false, columns, embeds⟩ row)
        (read.filter fun e => !embeds.any (displaces row e.1)) :=
      List.rel_filter (fun c e shows => by dsimp only; rw [shows.1]) columnwise
    obtain ⟨columnNames, columnEntries⟩ := find?_of_forall₂ kept fun c e shows => shows.1
    obtain ⟨embedNames, embedEntries⟩ := find?_of_forall₂ embedwise fun f e shows => shows.1
    have names := List.map_append.trans (congrArg₂ (· ++ ·) columnNames embedNames)
    have among : ((keptColumns ⟨false, columns, embeds⟩ row).map (Codes.ofString ·.outputKey) ++
        (keptEmbeds row embeds).map (Codes.ofString ·.1.outputKey)).Sublist
          (columns.map (Codes.ofString ·.outputKey) ++
            embeds.map (Codes.ofString ·.1.outputKey)) :=
      ((List.filter_sublist.trans List.filter_sublist).map _).append
        ((keptEmbeds_sublist row embeds).map _)
    have unique := names ▸ distinct.sublist among
    refine ⟨names, fun c hc => ?_, fun f hf => ?_⟩
    · obtain ⟨v, there, -, resolved⟩ := columnEntries c hc
      exact ⟨v, resolved, Entries.find?_of_mem unique (List.mem_append_left _ there)⟩
    · obtain ⟨v, there, -, related, held, projected⟩ := embedEntries f hf
      refine ⟨related, v, held, projected, ?_, overObjects_related (each f.2) related v projected⟩
      exact Entries.find?_of_mem unique (List.mem_append_right _ there)

theorem showsTo_of_ofMembers (depth : Nat) (h : p.ofMembers row = .ok result) :
    ShowsTo depth p row result := by
  induction depth generalizing p row result with
  | zero => trivial
  | succ depth ih =>
      exact fun plain distinct =>
        showsItems_of_ofMembers (fun q members shown => ih) plain distinct h

theorem addColumns_fault {columns : List ColumnRef} {fault : Fault}
    (h : addColumns row columns result = .error fault) :
    ∃ c ∈ columns, resolveColumn row c.name = .error fault := by
  induction columns generalizing result with
  | nil => cases h
  | cons c rest ih =>
      unfold addColumns at h
      split at h
      · split at h
        · rename_i failed
          cases h
          exact ⟨c, List.mem_cons_self, failed⟩
        · obtain ⟨d, hd, failed⟩ := ih h
          exact ⟨d, List.mem_cons_of_mem c hd, failed⟩
      · obtain ⟨d, hd, failed⟩ := ih h
        exact ⟨d, List.mem_cons_of_mem c hd, failed⟩

mutual

theorem unresolved_of_ofMembers {fault : Fault} : ∀ (p : Projection) (row : Members),
    p.ofMembers row = .error fault → p.Unresolved row fault
  | ⟨wildcard, columns, embeds⟩, row, h => by
      unfold ofMembers at h
      split at h
      · rename_i failed
        cases h
        obtain ⟨c, hc, failed⟩ := addColumns_fault failed
        exact .column hc failed
      · obtain ⟨e, he, related, held, members, inside, failed⟩ :=
          unresolved_of_addEmbeds embeds row _ h
        exact .embed he held inside failed
termination_by structural p => p

theorem unresolved_of_addEmbeds {fault : Fault} :
    ∀ (embeds : List (Embed × Projection)) (row result : Members),
      addEmbeds embeds row result = .error fault →
        ∃ e ∈ embeds, ∃ related, Entries.find? ↑e.1.relation row = some related ∧
          ∃ members, ObjectIn members related ∧ e.2.Unresolved members fault
  | [], _, _, h => nomatch h
  | (e, inner) :: rest, row, result, h => by
      have later (result : Members) (h : addEmbeds rest row result = .error fault) :=
        unresolved_of_addEmbeds rest row result h
      unfold addEmbeds at h
      split at h
      · obtain ⟨f, hf, found⟩ := later _ h
        exact ⟨f, List.mem_cons_of_mem _ hf, found⟩
      · rename_i related held
        split at h
        · rename_i failed
          cases h
          obtain ⟨members, inside, failed⟩ := overObjects_fault related failed
          exact ⟨(e, inner), List.mem_cons_self, related, held, members, inside,
            unresolved_of_ofMembers inner members failed⟩
        · obtain ⟨f, hf, found⟩ := later _ h
          exact ⟨f, List.mem_cons_of_mem _ hf, found⟩
termination_by structural embeds => embeds

end

/-- A select list without a wildcard, whose items have different keys, shows in a row every item that
is found in it and that no later embed takes away, and nothing else: a column with its value, and an
embed with what the row holds of its relation, in which every object is projected by the embed's own
select list and shows its items in the same way, at every depth. It fails only where a path does. -/
theorem items_of_select_list (p : Projection) (row : Members) (plain : p.wildcard = false)
    (distinct : p.outputKeys.Nodup) :
    match p.ofMembers row with
    | .ok result => ∀ depth, ShowsItems (ShowsTo depth) p row result
    | .error fault => p.Unresolved row fault := by
  cases h : p.ofMembers row with
  | ok result =>
      exact fun depth => showsItems_of_ofMembers
        (fun q members shown => showsTo_of_ofMembers depth) plain distinct h
  | error fault => exact unresolved_of_ofMembers p row h

def authoredPost : Members :=
  [("id", .ofInt 1), ("author", .object [("id", .ofInt 7), ("name", .string "Ada")]),
    ("comments", .array [.object [("id", .ofInt 3), ("likes", .ofInt 2)], .null])]

def authorAndWriter : Projection :=
  ⟨false, [⟨"id", none⟩, ⟨"title", none⟩],
    [(⟨"author", none, false⟩, ⟨false, [⟨"name", none⟩], []⟩),
      (⟨"author", some "writer", false⟩, ⟨false, [⟨"id", none⟩], []⟩),
      (⟨"comments", none, false⟩, ⟨false, [⟨"id", none⟩], []⟩)]⟩

theorem ofMembers_authorAndWriter :
    authorAndWriter.ofMembers authoredPost = .ok
      [("id", .ofInt 1), ("writer", .object [("id", .ofInt 7)]),
        ("comments", .array [.object [("id", .ofInt 3)], .null])] := by
  rfl

theorem items_of_authorAndWriter :
    ∃ result, authorAndWriter.ofMembers authoredPost = .ok result ∧
      Entries.names result = ["id", "writer", "comments"].map Codes.ofString ∧
      ∃ v, overObjects (ofMembers ⟨false, [⟨"id", none⟩], []⟩)
          (.array [.object [("id", .ofInt 3), ("likes", .ofInt 2)], .null]) = .ok v ∧
        Entries.find? (Codes.ofString "comments") result = some v ∧
        OverObjects (ShowsTo 1 ⟨false, [⟨"id", none⟩], []⟩)
          (.array [.object [("id", .ofInt 3), ("likes", .ofInt 2)], .null]) v := by
  have law := items_of_select_list authorAndWriter authoredPost rfl (by decide)
  rw [ofMembers_authorAndWriter] at law
  obtain ⟨keys, -, embeds⟩ := law 1
  obtain ⟨related, v, held, projected, found, deep⟩ :=
    embeds (⟨"comments", none, false⟩, ⟨false, [⟨"id", none⟩], []⟩) (.tail _ (.head _))
  cases held
  exact ⟨_, ofMembers_authorAndWriter, keys, v, projected, found, deep⟩

/-- An embed that is selected and found is not always shown. -/
theorem author_displaced_by_writer :
    ¬ ∀ (p : Projection) (row result : Members), p.wildcard = false → p.outputKeys.Nodup →
      p.ofMembers row = .ok result → ∀ key, key ∈ Entries.names result ↔
        (∃ c ∈ p.columns, readsColumn row c = true ∧ ↑c.outputKey = key) ∨
          ∃ e ∈ p.embeds, Entries.has ↑e.1.relation row = true ∧ e.1.outputKey = key := by
  intro shown
  have author := (shown authorAndWriter authoredPost _ rfl (by decide) ofMembers_authorAndWriter
    "author").mpr (.inr ⟨_, .head _, rfl, rfl⟩)
  exact absurd author (by decide)

end Projection

end TableServer
