import TableServer.Proofs.Query.Relations
import TableServer.Proofs.Value.Sending
import TableServer.Query.Shape

/-! Rows that can be sent. A query takes its texts out of the rows that it runs over, and where it
prints a value it prints one of theirs. So rows without surrogates give rows without surrogates. -/
namespace TableServer

def AllWellFormed (rows : List Value) : Prop :=
  ∀ row ∈ rows, row.wellFormed = true

theorem AllWellFormed.of_subset {rows kept : List Value} (whole : AllWellFormed rows)
    (inside : kept ⊆ rows) : AllWellFormed kept :=
  fun row hr => whole row (inside hr)

/-! ## Columns -/

theorem wellFormed_itemAt {items : List Value} (whole : Value.allWellFormed items = true)
    (place : Int) : (itemAt items place).wellFormed = true := by
  have found (i : Nat) : ((items[i]?).getD .null).wellFormed = true := by
    cases hi : items[i]? with
    | none => rfl
    | some v => exact Value.allWellFormed_iff.mp whole v (List.mem_of_getElem? hi)
  unfold itemAt
  split_ifs
  · exact found _
  · exact found _
  · rfl

theorem Step.into_wellFormed {v : Value} (whole : v.wellFormed = true) (key : List Char) :
    GivesOnly (·.wellFormed = true) (Step.into v key) := by
  unfold Step.into
  split
  · exact Value.wellFormed_find? whole
  · split
    · split
      · exact wellFormed_itemAt whole _
      · trivial
    · rfl
  · rfl

theorem Path.present_wellFormed {v : Value} (whole : v.wellFormed = true) (steps : List Step) :
    (Path.present steps v).wellFormed = true := by
  unfold Path.present
  split
  · split
    · rfl
    · exact whole
    · exact Value.wellFormed_text whole
  · exact whole

theorem resolveColumn_wellFormed {row : Members} (whole : Value.membersWellFormed row = true)
    (column : String) : GivesOnly (·.wellFormed = true) (resolveColumn row column) :=
  .map (.foldlM (Value.wellFormed_find? whole) fun _ s _ found => Step.into_wellFormed found s.key)
    fun _ found => Path.present_wellFormed found _

/-! ## Projections -/

namespace Projection

mutual

theorem overObjects_wellFormed {f : Members → Except Fault Members}
    (each : ∀ members, Value.membersWellFormed members = true →
      GivesOnly (Value.membersWellFormed · = true) (f members)) :
    ∀ v : Value, v.wellFormed = true → GivesOnly (·.wellFormed = true) (overObjects f v)
  | .object members, whole => .map (each members whole) fun _ done => done
  | .array items, whole => .map (overItems_wellFormed each items whole) fun _ done => done
  | .null, whole => whole
  | .bool _, whole => whole
  | .number _, whole => whole
  | .string _, whole => whole

theorem overItems_wellFormed {f : Members → Except Fault Members}
    (each : ∀ members, Value.membersWellFormed members = true →
      GivesOnly (Value.membersWellFormed · = true) (f members)) :
    ∀ items : List Value, Value.allWellFormed items = true →
      GivesOnly (Value.allWellFormed · = true) (overObjects.overItems f items)
  | [], _ => rfl
  | v :: rest, whole => by
      simp only [Value.allWellFormed, Bool.and_eq_true] at whole
      have head := overObjects_wellFormed each v whole.1
      unfold overObjects.overItems
      refine head.elim (fun w _ hw => ?_) fun _ _ => trivial
      exact (overItems_wellFormed each rest whole.2).map fun others done => by
        simp [Value.allWellFormed, hw, done]

end

theorem addColumns_wellFormed {row : Members} (whole : Value.membersWellFormed row = true)
    (columns : List ColumnRef) {result : Members}
    (before : Value.membersWellFormed result = true) :
    GivesOnly (Value.membersWellFormed · = true) (addColumns row columns result) := by
  induction columns generalizing result with
  | nil => exact before
  | cons c rest ih =>
      unfold addColumns
      split
      · refine (resolveColumn_wellFormed whole c.name).elim (fun v _ hv => ?_) fun _ _ => trivial
        exact ih (Value.membersWellFormed_put before (Codes.wellFormed_ofString _) hv)
      · exact ih before

theorem clearRelation_wellFormed {result : Members}
    (before : Value.membersWellFormed result = true) (e : Embed) :
    Value.membersWellFormed (clearRelation e result) = true := by
  unfold clearRelation
  split
  · exact Value.membersWellFormed_erase before _
  · exact before

mutual

theorem ofMembers_wellFormed : ∀ (p : Projection) (row : Members),
    Value.membersWellFormed row = true →
      GivesOnly (Value.membersWellFormed · = true) (p.ofMembers row)
  | ⟨wildcard, columns, embeds⟩, row, whole => by
      have start : Value.membersWellFormed (if wildcard then row else []) = true := by
        split
        · exact whole
        · rfl
      have added := addColumns_wellFormed whole columns start
      unfold ofMembers
      exact added.elim (fun result _ done => addEmbeds_wellFormed embeds row result whole done)
        fun _ _ => trivial
termination_by structural p => p

theorem addEmbeds_wellFormed : ∀ (embeds : List (Embed × Projection)) (row result : Members),
    Value.membersWellFormed row = true → Value.membersWellFormed result = true →
      GivesOnly (Value.membersWellFormed · = true) (addEmbeds embeds row result)
  | [], _, _, _, before => before
  | (e, inner) :: rest, row, result, whole, before => by
      have each := ofMembers_wellFormed inner
      unfold addEmbeds
      split
      · exact addEmbeds_wellFormed rest row result whole before
      · rename_i related found
        have told := Value.membersWellFormed_iff.mp whole _ (Entries.mem_of_find? found)
        refine (overObjects_wellFormed each related told.2).elim (fun v _ hv => ?_)
          fun _ _ => trivial
        refine addEmbeds_wellFormed rest row _ whole ?_
        exact Value.membersWellFormed_put (clearRelation_wellFormed before e)
          (Codes.wellFormed_ofString _) hv
termination_by structural embeds => embeds

end

/-! A row that is no object spells its pairs by texts of its own. -/

theorem pairKey_wellFormed {v : Value} (whole : v.wellFormed = true) :
    GivesOnly (Codes.wellFormed · = true) (pairKey v) := by
  cases v with
  | array items => trivial
  | object members => trivial
  | string s => exact whole
  | _ => exact Value.wellFormed_scalarText whole

theorem pairOf_wellFormed {v : Value} (whole : v.wellFormed = true) (place : Nat) :
    GivesOnly (fun e => e.1.wellFormed = true ∧ e.2.wellFormed = true) (pairOf place v) := by
  unfold pairOf
  split
  · rename_i k v
    simp only [Value.wellFormed, Value.allWellFormed, Bool.and_eq_true] at whole
    exact (pairKey_wellFormed whole.1).map fun _ named => ⟨named, whole.2.1⟩
  · trivial
  · split
    · rename_i k v
      simp only [Value.wellFormed, Codes.wellFormed, List.all_cons, Bool.and_eq_true] at whole
      exact ⟨by simp [Codes.wellFormed, whole.1],
        by simp [Value.wellFormed, Codes.wellFormed, whole.2.1]⟩
    · trivial
  · rename_i k _ v _
    simp only [Value.wellFormed, Value.membersWellFormed, Bool.and_eq_true] at whole
    exact ⟨whole.1.1, whole.2.1.1⟩
  · trivial
  · trivial

theorem pairsFrom_wellFormed {items : List Value} (whole : Value.allWellFormed items = true)
    (place : Nat) : GivesOnly (Value.membersWellFormed · = true) (pairsFrom place items) := by
  induction items generalizing place with
  | nil => rfl
  | cons v rest ih =>
      simp only [Value.allWellFormed, Bool.and_eq_true] at whole
      unfold pairsFrom
      refine (pairOf_wellFormed whole.1 place).elim (fun e _ told => ?_) fun _ _ => trivial
      exact (ih whole.2 (place + 1)).map fun others done => by
        simp [Value.membersWellFormed, told, done]

theorem membersOf_wellFormed {row : Value} (whole : row.wellFormed = true) :
    GivesOnly (Value.membersWellFormed · = true) (membersOf row) := by
  cases row with
  | object members => exact whole
  | array items =>
      exact (pairsFrom_wellFormed whole 0).map fun _ done =>
        Value.membersWellFormed_merge rfl done
  | string s => cases s <;> trivial
  | _ => trivial

theorem ofOther_wellFormed (p : Projection) {row : Value} (whole : row.wellFormed = true) :
    GivesOnly (Value.membersWellFormed · = true) (p.ofOther row) := by
  have checked {members : Members} (done : Value.membersWellFormed members = true) :
      GivesOnly (Value.membersWellFormed · = true) ((checkColumns row p.columns).bind fun _ =>
        (checkEmbeds row p.embeds).bind fun _ => .ok members) := by
    cases checkColumns row p.columns with
    | error fault => trivial
    | ok _ => cases checkEmbeds row p.embeds <;> first | exact done | trivial
  unfold ofOther
  split
  · exact .bind (membersOf_wellFormed whole) fun _ => checked
  · exact checked rfl

theorem rows_wellFormed (p : Projection) {rows : List Value} (whole : AllWellFormed rows) :
    GivesOnly AllWellFormed (p.rows rows) := by
  rw [rows_eq_mapM]
  refine .mapM fun row hr => ?_
  unfold Projection.row
  split
  · exact (p.ofMembers_wellFormed _ (whole _ hr)).map fun _ done => done
  · exact (p.ofOther_wellFormed (whole row hr)).map fun _ done => done

end Projection

/-! ## Queries -/

namespace Query

theorem selectRows_subset {p : RowPredicate} (rows : List Value) :
    GivesOnly (· ⊆ rows) (selectRows p rows) := by
  cases h : selectRows p rows with
  | error fault => trivial
  | ok kept =>
      obtain ⟨-, rfl⟩ := selectRows_eq_ok_iff.mp h
      exact List.filter_sublist.subset

theorem orderRows_subset (terms : List OrderTerm) (rows : List Value) :
    GivesOnly (· ⊆ rows) (orderRows terms rows) := by
  cases h : orderRows terms rows with
  | error fault => trivial
  | ok sorted => exact (orderRows_perm h).subset

theorem stage_gives {α : Type} {good : α → Prop} {x : Except Fault α} (h : GivesOnly good x) :
    GivesOnly good (stage x) := by
  cases x <;> exact h

theorem filterRelated_wellFormed (f : Filter) (relation : String) {related : Value}
    (whole : related.wellFormed = true) :
    GivesOnly (·.wellFormed = true) (filterRelated f relation related) := by
  cases related with
  | null => rfl
  | object members =>
      unfold filterRelated
      dsimp only
      cases f.holds (.object members) with
      | error fault => trivial
      | ok kept => cases kept <;> first | exact whole | rfl
  | array items =>
      have selected := selectRows_subset (p := f.holds) items
      unfold filterRelated
      dsimp only
      refine selected.elim (fun kept _ inside => ?_) fun _ _ => trivial
      exact Value.allWellFormed_of_subset whole inside
  | _ => trivial

theorem filterEmbedded_wellFormed (relation : String) (f : Filter) {row : Value}
    (whole : row.wellFormed = true) :
    GivesOnly (·.wellFormed = true) (filterEmbedded relation f row) := by
  unfold filterEmbedded
  split
  · rename_i members
    split
    · trivial
    · rename_i related found
      have told := Value.membersWellFormed_iff.mp whole _ (Entries.mem_of_find? found)
      exact (filterRelated_wellFormed f relation told.2).map fun _ done =>
        Value.membersWellFormed_put whole (Codes.wellFormed_ofString _) done
  · split <;> trivial

theorem mapList_wellFormed (relation : String) {f : List Value → Except Fault (List Value)}
    (inside : ∀ items, GivesOnly (· ⊆ items) (f items)) {row : Value}
    (whole : row.wellFormed = true) : GivesOnly (·.wellFormed = true) (mapList relation f row) := by
  unfold mapList
  split
  · rename_i members
    split
    · rename_i items found
      have told := (Value.membersWellFormed_iff.mp whole _ (Entries.mem_of_find? found)).2
      refine (inside items).elim (fun changed _ among => ?_) fun _ _ => trivial
      refine Value.membersWellFormed_put whole (Codes.wellFormed_ofString _) ?_
      exact Value.allWellFormed_of_subset told among
    · exact whole
  · trivial

theorem overRows_wellFormed {f : Value → Outcome Value} {rows : List Value}
    (whole : AllWellFormed rows)
    (each : ∀ row, row.wellFormed = true → GivesOnly (·.wellFormed = true) (f row)) :
    GivesOnly AllWellFormed (overRows f rows) := by
  rw [overRows_eq_mapM]
  exact .mapM fun row hr => each row (whole row hr)

theorem filterRelations_wellFormed (embedded : Entries Scope) {rows : List Value}
    (whole : AllWellFormed rows) : GivesOnly AllWellFormed (filterRelations embedded rows) := by
  induction embedded generalizing rows with
  | nil => exact whole
  | cons e rest ih =>
      unfold filterRelations
      split
      · exact ih whole
      · rename_i f _
        have filtered := overRows_wellFormed whole fun _ => filterEmbedded_wellFormed e.1 f
        exact filtered.elim (fun _ _ done => ih done) fun _ _ => trivial

theorem overRelations_wellFormed {passed : Scope → Bool}
    {change : Scope → List Value → Except Fault (List Value)}
    (inside : ∀ s items, GivesOnly (· ⊆ items) (change s items)) (embedded : Entries Scope)
    {rows : List Value} (whole : AllWellFormed rows) :
    GivesOnly AllWellFormed (overRelations passed change embedded rows) := by
  induction embedded generalizing rows with
  | nil => exact whole
  | cons e rest ih =>
      unfold overRelations
      split
      · exact ih whole
      · have changed := overRows_wellFormed whole fun _ => mapList_wellFormed e.1 (inside e.2)
        exact changed.elim (fun _ _ done => ih done) fun _ _ => trivial

theorem matching_wellFormed (q : Query) {rows : List Value} (whole : AllWellFormed rows) :
    GivesOnly AllWellFormed (q.matching rows) := by
  have chosen : GivesOnly AllWellFormed (q.chosenRows rows) := by
    unfold chosenRows
    split
    · exact whole
    · exact (selectRows_subset rows).imp fun _ _ inside => whole.of_subset inside
  refine .bind (stage_gives chosen) fun kept hk => ?_
  refine .bind (filterRelations_wellFormed q.embedded hk) fun narrowed hn => stage_gives ?_
  cases hi : keepInner q.projection.innerRelations narrowed with
  | error fault => trivial
  | ok found => exact hn.of_subset (keepInner_subset hi)

theorem run_wellFormed (q : Query) {rows : List Value} (whole : AllWellFormed rows) :
    GivesOnly (fun result => AllWellFormed result.rows) (q.run rows) := by
  have ordered {found : List Value} (hf : AllWellFormed found) :
      GivesOnly AllWellFormed (q.ordered found) := by
    refine .bind (stage_gives (orderRows_subset q.scope.order found)) fun sorted inside => ?_
    rw [orderRelations_eq]
    exact overRelations_wellFormed (fun s => orderRows_subset s.order) q.embedded
      (hf.of_subset inside)
  have windowed {sorted : List Value} (hs : AllWellFormed sorted) :
      GivesOnly AllWellFormed (windowRelations q.embedded (q.scope.window.apply sorted)) := by
    have inside (s : Scope) (items : List Value) :
        GivesOnly (· ⊆ items) (.ok (s.window.apply items) : Except Fault (List Value)) :=
      s.window.apply_subset items
    rw [windowRelations_eq]
    exact overRelations_wellFormed inside q.embedded
      (hs.of_subset (q.scope.window.apply_subset sorted))
  refine .bind (matching_wellFormed q whole) fun found hf => ?_
  refine .bind (ordered hf) fun sorted hs => ?_
  refine .bind (windowed hs) fun shown hw => ?_
  exact .bind (stage_gives (q.projection.rows_wellFormed hw)) fun _ done => done

end Query

theorem Shape.resolve_wellFormed {rows : List Value} (whole : AllWellFormed rows) (s : Shape) :
    GivesOnly (·.wellFormed = true) (s.resolve rows) := by
  unfold Shape.resolve
  split
  · exact Value.allWellFormed_iff.mpr whole
  · exact whole _ (by simp [*])
  · trivial
  · rfl
  · exact whole _ (by simp [*])
  · trivial

end TableServer
