import TableServer.Proofs.Entries
import TableServer.Proofs.Query.Stages

/-! Stages over referenced tables. Such a stage changes what each row holds of each relation. What
it makes of one relation depends on nothing that it makes of another, so the order of the relations
does not count. -/
namespace TableServer

namespace Scope

/-- Scopes whose filters are the same up to their order. -/
structure Alike (s t : Scope) : Prop where
  filters : s.filters.Perm t.filters
  order : s.order = t.order
  window : s.window = t.window

end Scope

namespace Filter

theorem allHold_eq_true_iff {parts : List Filter} {row : Value} :
    allHold parts row = .ok true ↔ ∀ f ∈ parts, f.holds row = .ok true := by
  induction parts with
  | nil => simp [allHold]
  | cons f rest ih =>
      rw [allHold]
      cases hf : f.holds row with
      | error fault => simp [hf]
      | ok b => cases b <;> simp [hf, ih]

theorem holds_conjoin {parts : List Filter} {f : Filter} (joined : conjoin parts = some f)
    {row : Value} : f.holds row = .ok true ↔ ∀ part ∈ parts, part.holds row = .ok true := by
  match parts, joined with
  | [_], rfl => simp
  | g :: h :: rest, rfl => rw [holds, allHold_eq_true_iff]

theorem eq_of_holds_conjoin {parts others : List Filter} (perm : parts.Perm others) {f g : Filter}
    (hf : conjoin parts = some f) (hg : conjoin others = some g) {row : Value} {a b : Bool}
    (ha : f.holds row = .ok a) (hb : g.holds row = .ok b) : a = b := by
  have told : f.holds row = .ok true ↔ _ := holds_conjoin hf
  have told' : g.holds row = .ok true ↔ _ := holds_conjoin hg
  simp only [ha, hb, Except.ok.injEq, perm.mem_iff] at told told'
  exact Bool.eq_iff_iff.mpr (told.trans told'.symm)

theorem conjoin_eq_none_iff {parts : List Filter} : conjoin parts = none ↔ parts = [] := by
  match parts with
  | [] => simp [conjoin]
  | [_] => simp [conjoin]
  | _ :: _ :: _ => simp [conjoin]

end Filter

theorem Scope.Alike.predicate_none_iff {s t : Scope} (alike : s.Alike t) :
    s.predicate? = none ↔ t.predicate? = none := by
  simp only [predicate?, Filter.conjoin_eq_none_iff]
  constructor
  · intro h
    exact (h ▸ alike.filters).symm.eq_nil
  · intro h
    exact (h ▸ alike.filters).eq_nil

theorem selectRows_agree {p q : RowPredicate} {rows kept others : List Value}
    (agree : ∀ row a b, p row = .ok a → q row = .ok b → a = b) (hp : selectRows p rows = .ok kept)
    (hq : selectRows q rows = .ok others) : kept = others := by
  obtain ⟨all, rfl⟩ := selectRows_eq_ok_iff.mp hp
  obtain ⟨all', rfl⟩ := selectRows_eq_ok_iff.mp hq
  exact List.filter_congr fun row hr => agree row _ _ (all row hr) (all' row hr)

theorem Window.apply_subset {α : Type} (w : Window) (rows : List α) : w.apply rows ⊆ rows := by
  unfold apply
  cases w.limit with
  | none => exact List.drop_subset _ _
  | some n => exact List.Subset.trans (List.take_subset _ _) (List.drop_subset _ _)

namespace Query

/-- What a stage makes of what a row holds of a relation. What is missing stays missing. -/
structure Alteration where
  alter : String → Scope → Option Value → Outcome (Option Value)
  keeps : ∀ {relation s held out}, alter relation s held = .ok out → out.isSome = held.isSome

def holding (relation : String) (held : Option Value) (members : Members) : Members :=
  match held with
  | some v => Entries.put ↑relation v members
  | none => members

theorem find?_holding {relation other : String} (different : other ≠ relation)
    (held : Option Value) (members : Members) :
    Entries.find? ↑other (holding relation held members) = Entries.find? ↑other members := by
  cases held with
  | none => rfl
  | some v => exact Entries.find?_put_of_ne (mt Codes.ofString_inj.mp different) v members

theorem holding_find? (relation : String) (members : Members) :
    holding relation (Entries.find? ↑relation members) members = members := by
  cases h : Entries.find? ↑relation members with
  | none => rfl
  | some v => exact Entries.put_of_find? h

namespace Alteration

variable (a : Alteration)

def one (e : String × Scope) (members : Members) : Outcome Members :=
  (a.alter e.1 e.2 (Entries.find? ↑e.1 members)).map fun held => holding e.1 held members

def row : Entries Scope → Members → Outcome Members
  | [], members => .ok members
  | e :: rest, members => (a.one e members).bind (row rest)

def rows : Entries Scope → List Members → Outcome (List Members)
  | [], ms => .ok ms
  | e :: rest, ms => (ms.mapM (a.one e)).bind (rows rest)

variable {a b : Alteration} {embedded others : Entries Scope} {members : Members}

theorem one_eq_ok_iff {e : String × Scope} {out : Members} :
    a.one e members = .ok out ↔ ∃ held, a.alter e.1 e.2 (Entries.find? ↑e.1 members) = .ok held ∧
      holding e.1 held members = out :=
  Outcome.map_eq_ok_iff

theorem row_cons_eq_ok_iff {e : String × Scope} {out : Members} :
    a.row (e :: embedded) members = .ok out ↔
      ∃ between, a.one e members = .ok between ∧ a.row embedded between = .ok out :=
  Outcome.bind_eq_ok_iff

theorem row_cons_cons_eq_ok_iff {e f : String × Scope} {out : Members} :
    a.row (e :: f :: embedded) members = .ok out ↔
      ∃ last, (∃ between, a.one e members = .ok between ∧ a.one f between = .ok last) ∧
        a.row embedded last = .ok out := by
  simp only [row_cons_eq_ok_iff]
  constructor
  · rintro ⟨between, he, last, hf, hr⟩
    exact ⟨last, ⟨between, he, hf⟩, hr⟩
  · rintro ⟨last, ⟨between, he, hf⟩, hr⟩
    exact ⟨between, he, last, hf, hr⟩

theorem rows_eq_ok_iff {ms out : List Members} :
    a.rows embedded ms = .ok out ↔ ms.mapM (a.row embedded) = .ok out := by
  induction embedded generalizing ms with
  | nil =>
      have pass : ms.mapM (a.row []) = .ok ms :=
        (Outcome.mapM_eq_ok_map (g := id) fun m _ => rfl).trans (by rw [List.map_id])
      rw [pass, rows]
  | cons e rest ih =>
      simp only [rows, Outcome.bind_eq_ok_iff, ih]
      exact Outcome.mapM_mapM_eq_ok_iff

theorem holding_comm {e f : String × Scope} (different : e.1 ≠ f.1) {x y : Option Value}
    (hx : a.alter e.1 e.2 (Entries.find? ↑e.1 members) = .ok x) :
    holding f.1 y (holding e.1 x members) = holding e.1 x (holding f.1 y members) := by
  cases x with
  | none => rfl
  | some v =>
      cases y with
      | none => rfl
      | some w =>
          have there : ↑e.1 ∈ Entries.names members := by
            have found := a.keeps hx
            by_contra absent
            rw [Entries.find?_eq_none_iff.mpr absent] at found
            cases found
          exact (Entries.put_comm (mt Codes.ofString_inj.mp different) there v w).symm

theorem one_one_iff {e f : String × Scope} (different : e.1 ≠ f.1) {out : Members} :
    (∃ between, a.one e members = .ok between ∧ b.one f between = .ok out) ↔
      ∃ between, b.one f members = .ok between ∧ a.one e between = .ok out := by
  simp only [one_eq_ok_iff]
  constructor
  · rintro ⟨_, ⟨x, hx, rfl⟩, y, hy, rfl⟩
    rw [find?_holding (Ne.symm different)] at hy
    exact ⟨_, ⟨y, hy, rfl⟩, x, by rw [find?_holding different]; exact hx,
      (holding_comm different hx).symm⟩
  · rintro ⟨_, ⟨y, hy, rfl⟩, x, hx, rfl⟩
    rw [find?_holding different] at hx
    exact ⟨_, ⟨x, hx, rfl⟩, y, by rw [find?_holding (Ne.symm different)]; exact hy,
      holding_comm different hx⟩

theorem row_perm (perm : embedded.Perm others) (unique : (Entries.names embedded).Nodup)
    {out : Members} : a.row embedded members = .ok out ↔ a.row others members = .ok out := by
  induction perm generalizing members with
  | nil => rfl
  | cons e _ ih =>
      have tail := (List.nodup_cons.mp unique).2
      simp only [row_cons_eq_ok_iff, ih tail]
  | swap e f rest =>
      have different : e.1 ≠ f.1 := by
        intro same
        simp [Entries.names, same] at unique
      simp only [row_cons_cons_eq_ok_iff, one_one_iff different]
  | trans first _ ih ih' =>
      exact (ih unique).trans (ih' ((first.map Prod.fst).nodup_iff.mp unique))

theorem find?_row {relation : String} (other : relation ∉ Entries.names embedded)
    {out : Members} (h : a.row embedded members = .ok out) :
    Entries.find? ↑relation out = Entries.find? ↑relation members := by
  induction embedded generalizing members with
  | nil =>
      cases h
      rfl
  | cons e rest ih =>
      obtain ⟨between, first, second⟩ := row_cons_eq_ok_iff.mp h
      obtain ⟨held, -, rfl⟩ := one_eq_ok_iff.mp first
      obtain ⟨different, apart⟩ : relation ≠ e.1 ∧ relation ∉ Entries.names rest := by
        simpa [Entries.names] using other
      exact (ih apart second).trans (find?_holding different held members)

theorem find?_holding_self {e : String × Scope} {held : Option Value}
    (h : a.alter e.1 e.2 (Entries.find? ↑e.1 members) = .ok held) :
    Entries.find? ↑e.1 (holding e.1 held members) = held := by
  cases held with
  | some v => exact Entries.find?_put_self ↑e.1 v members
  | none =>
      have absent : Entries.find? ↑e.1 members = none := by simpa using (a.keeps h).symm
      exact absent

theorem alter_of_row (unique : (Entries.names embedded).Nodup) {out : Members}
    (h : a.row embedded members = .ok out) {e : String × Scope} (he : e ∈ embedded) :
    a.alter e.1 e.2 (Entries.find? ↑e.1 members) = .ok (Entries.find? ↑e.1 out) := by
  induction embedded generalizing members with
  | nil => cases he
  | cons f rest ih =>
      obtain ⟨between, first, second⟩ := row_cons_eq_ok_iff.mp h
      obtain ⟨held, alter, rfl⟩ := one_eq_ok_iff.mp first
      obtain ⟨apart, unique'⟩ := List.nodup_cons.mp unique
      rcases List.mem_cons.mp he with rfl | there
      · rw [find?_row apart second, find?_holding_self alter]
        exact alter
      · have different : e.1 ≠ f.1 := fun same => apart (same ▸ List.mem_map_of_mem there)
        rw [← ih unique' second there, find?_holding different]

theorem one_of_row {e : String × Scope} (apart : e.1 ∉ Entries.names embedded)
    {between out : Members} (ha : a.row embedded members = .ok between)
    (hb : b.one e between = .ok out) :
    ∃ first, b.one e members = .ok first ∧ a.row embedded first = .ok out := by
  induction embedded generalizing members with
  | nil =>
      cases ha
      exact ⟨out, hb, rfl⟩
  | cons f rest ih =>
      obtain ⟨next, hf, hr⟩ := row_cons_eq_ok_iff.mp ha
      obtain ⟨different, apart'⟩ : e.1 ≠ f.1 ∧ e.1 ∉ Entries.names rest := by
        simpa [Entries.names] using apart
      obtain ⟨middle, he, hm⟩ := ih apart' hr
      obtain ⟨first, he', hf'⟩ := (one_one_iff (Ne.symm different)).mp ⟨next, hf, he⟩
      exact ⟨first, he', row_cons_eq_ok_iff.mpr ⟨middle, hf', hm⟩⟩

def andThen (a b : Alteration) : Alteration where
  alter relation s held := (a.alter relation s held).bind (b.alter relation s)
  keeps := by
    intro relation s held out h
    obtain ⟨between, ha, hb⟩ := Outcome.bind_eq_ok_iff.mp h
    exact (b.keeps hb).trans (a.keeps ha)

theorem one_andThen {e : String × Scope} {between out : Members}
    (ha : a.one e members = .ok between) (hb : b.one e between = .ok out) :
    (a.andThen b).one e members = .ok out := by
  obtain ⟨x, hx, rfl⟩ := one_eq_ok_iff.mp ha
  obtain ⟨y, hy, rfl⟩ := one_eq_ok_iff.mp hb
  rw [find?_holding_self hx] at hy
  refine one_eq_ok_iff.mpr ⟨y, Outcome.bind_eq_ok_iff.mpr ⟨x, hx, hy⟩, ?_⟩
  have kept := b.keeps hy
  cases x with
  | none => rfl
  | some v =>
      cases y with
      | none => cases kept
      | some w => exact (Entries.put_put_self ↑e.1 v w members).symm

theorem row_andThen (unique : (Entries.names embedded).Nodup) {between out : Members}
    (ha : a.row embedded members = .ok between) (hb : b.row embedded between = .ok out) :
    (a.andThen b).row embedded members = .ok out := by
  induction embedded generalizing members between with
  | nil =>
      cases ha
      exact hb
  | cons e rest ih =>
      obtain ⟨apart, unique'⟩ := List.nodup_cons.mp unique
      obtain ⟨next, first, others⟩ := row_cons_eq_ok_iff.mp ha
      obtain ⟨last, second, others'⟩ := row_cons_eq_ok_iff.mp hb
      obtain ⟨both, here, rest_there⟩ := one_of_row apart others second
      exact row_cons_eq_ok_iff.mpr ⟨both, one_andThen first here, ih unique' rest_there others'⟩

theorem row_congr (unique : (Entries.names embedded).Nodup)
    (agree : ∀ e ∈ embedded, ∀ held, a.alter e.1 e.2 (Entries.find? ↑e.1 members) = .ok held →
      b.alter e.1 e.2 (Entries.find? ↑e.1 members) = .ok held) {out : Members}
    (h : a.row embedded members = .ok out) : b.row embedded members = .ok out := by
  induction embedded generalizing members with
  | nil => exact h
  | cons e rest ih =>
      obtain ⟨apart, unique'⟩ := List.nodup_cons.mp unique
      obtain ⟨between, first, second⟩ := row_cons_eq_ok_iff.mp h
      obtain ⟨held, alter, rfl⟩ := one_eq_ok_iff.mp first
      refine row_cons_eq_ok_iff.mpr
        ⟨_, one_eq_ok_iff.mpr ⟨held, agree e (by simp) held alter, rfl⟩, ih unique' ?_ second⟩
      intro f hf
      have different : f.1 ≠ e.1 := fun same => apart (same ▸ List.mem_map_of_mem hf)
      rw [find?_holding different]
      exact agree f (by simp [hf])

end Alteration

/-- Scopes of relations that are the same up to the order of the relations and of their filters. -/
structure AlikeRelations (embedded others : Entries Scope) : Prop where
  unique : (Entries.names embedded).Nodup
  names : (Entries.names embedded).Perm (Entries.names others)
  scopes : ∀ relation, Scope.Alike ((Entries.find? relation embedded).getD .empty)
    ((Entries.find? relation others).getD .empty)

theorem map_names_find? {entries : Entries Scope} (unique : (Entries.names entries).Nodup) :
    (Entries.names entries).map (fun name => (name, (Entries.find? name entries).getD .empty)) =
      entries := by
  rw [Entries.names, List.map_map]
  conv_rhs => rw [← List.map_id entries]
  refine List.map_congr_left fun e he => ?_
  simp [Entries.find?_of_mem unique he]

namespace Alteration

variable {a : Alteration} {embedded others : Entries Scope}

theorem rows_agree (alike : AlikeRelations embedded others)
    (agree : ∀ {relation s t held x y}, Scope.Alike s t → a.alter relation s held = .ok x →
      a.alter relation t held = .ok y → x = y) {ms out out' : List Members}
    (h : a.rows embedded ms = .ok out) (h' : a.rows others ms = .ok out') : out = out' := by
  -- The other scopes, in the order of the first ones.
  let scope (name : String) : String × Scope := (name, (Entries.find? name others).getD .empty)
  have turned : (embedded.map fun e => scope e.1).Perm others := by
    have unique' := (alike.names.nodup_iff).mp alike.unique
    have perm := alike.names.map scope
    rwa [map_names_find? unique', Entries.names, List.map_map] at perm
  have unique' : (Entries.names (embedded.map fun e => scope e.1)).Nodup := by
    have same : Entries.names (embedded.map fun e => scope e.1) = Entries.names embedded := by
      simp [Entries.names, scope]
    rw [same]
    exact alike.unique
  have each : ∀ {part : Entries Scope}, part ⊆ embedded → ∀ {members x y}, a.row part members = .ok x →
      a.row (part.map fun e => scope e.1) members = .ok y → x = y := by
    intro part
    induction part with
    | nil =>
        intro _ members x y hx hy
        exact Except.ok.inj (hx.symm.trans hy)
    | cons e rest ih =>
        intro within members x y hx hy
        obtain ⟨between, first, second⟩ := row_cons_eq_ok_iff.mp hx
        obtain ⟨between', first', second'⟩ := row_cons_eq_ok_iff.mp hy
        obtain ⟨held, alter, rfl⟩ := one_eq_ok_iff.mp first
        obtain ⟨held', alter', rfl⟩ := one_eq_ok_iff.mp first'
        have scopes := alike.scopes e.1
        rw [Entries.find?_of_mem alike.unique (within List.mem_cons_self)] at scopes
        obtain rfl := agree scopes alter alter'
        exact ih (fun f hf => within (List.mem_cons_of_mem e hf)) second second'
  rw [rows_eq_ok_iff] at h h'
  refine Outcome.mapM_agree (fun members _ x y hx hy => ?_) h h'
  exact each (List.Subset.refl embedded) hx ((row_perm turned unique').mpr hy)

end Alteration

theorem overRows_objects {f : Value → Outcome Value} {g : Members → Outcome Members}
    {ms : List Members} (h : ∀ m ∈ ms, f (.object m) = (g m).map .object) :
    overRows f (ms.map .object) = (ms.mapM g).map (List.map .object) := by
  induction ms with
  | nil => rfl
  | cons m rest ih =>
      have tail := ih fun n hn => h n (by simp [hn])
      rw [List.map_cons, overRows, h m (by simp), List.mapM_cons, tail]
      cases g m with
      | error e => rfl
      | ok n => cases rest.mapM g <;> rfl

def filtering : Alteration where
  alter relation s held :=
    match s.predicate? with
    | none => .ok held
    | some f =>
        match held with
        | none => .error (missingRelation relation)
        | some related => (filterRelated f relation related).map some
  keeps := by
    intro relation s held out h
    split at h
    · cases h
      rfl
    · split at h
      · cases h
      · obtain ⟨v, -, rfl⟩ := Outcome.map_eq_ok_iff.mp h
        rfl

/-- Without filters everything is left as it is held; with some, something is held. -/
theorem filtering_cases {relation : String} {s : Scope} {held out : Option Value}
    (h : filtering.alter relation s held = .ok out) :
    s.predicate? = none ∧ held = out ∨ ∃ f related left, s.predicate? = some f ∧
      held = some related ∧ filterRelated f relation related = .ok left ∧ some left = out := by
  unfold filtering at h
  dsimp only at h
  split at h
  · rename_i untold
    exact .inl ⟨untold, Except.ok.inj h⟩
  · rename_i f told
    split at h
    · cases h
    · rename_i related
      obtain ⟨left, hl, same⟩ := Outcome.map_eq_ok_iff.mp h
      exact .inr ⟨f, related, left, told, rfl, hl, same⟩

def changing (passed : Scope → Bool) (change : Scope → List Value → Except Fault (List Value)) :
    Alteration where
  alter _ s held :=
    if passed s then .ok held
    else
      match held with
      | some (.array items) =>
          match change s items with
          | .error fault => .error (.fault fault)
          | .ok items => .ok (some (.array items))
      | _ => .ok held
  keeps := by
    intro relation s held out h
    split at h
    · cases h
      rfl
    · split at h
      · split at h
        · cases h
        · cases h
          rfl
      · cases h
        rfl

theorem filterEmbedded_object (relation : String) {s : Scope} {f : Filter}
    (told : s.predicate? = some f) (members : Members) :
    filterEmbedded relation f (.object members) =
      (filtering.one (relation, s) members).map .object := by
  cases hf : Entries.find? ↑relation members with
  | none => simp [filterEmbedded, Alteration.one, filtering, told, hf, Except.map]
  | some related =>
      cases hr : filterRelated f relation related <;>
        simp [filterEmbedded, Alteration.one, filtering, told, hf, hr, Except.map, holding]

theorem mapList_object {passed : Scope → Bool}
    (change : Scope → List Value → Except Fault (List Value)) (relation : String) {s : Scope}
    (reached : passed s = false) (members : Members) :
    mapList relation (change s) (.object members) =
      ((changing passed change).one (relation, s) members).map .object := by
  have same := holding_find? relation members
  cases hf : Entries.find? ↑relation members with
  | none => simp [mapList, Alteration.one, changing, reached, hf, Except.map, holding]
  | some v =>
      rw [hf] at same
      cases v with
      | array items =>
          cases hc : change s items <;>
            simp [mapList, Alteration.one, changing, reached, hf, hc, Except.map, holding]
      | _ => simp [mapList, Alteration.one, changing, reached, hf, Except.map, same]

theorem mapM_one_of_idle {a : Alteration} {e : String × Scope}
    (idle : ∀ held, a.alter e.1 e.2 held = .ok held) (ms : List Members) :
    ms.mapM (a.one e) = .ok ms := by
  refine (Outcome.mapM_eq_ok_map (g := id) fun m _ => ?_).trans (by rw [List.map_id])
  rw [Alteration.one, idle, Except.map, holding_find?, id]

theorem filterRelations_objects (embedded : Entries Scope) (ms : List Members) :
    filterRelations embedded (ms.map .object) =
      (filtering.rows embedded ms).map (List.map .object) := by
  induction embedded generalizing ms with
  | nil => rfl
  | cons e rest ih =>
      obtain ⟨relation, s⟩ := e
      unfold filterRelations Alteration.rows
      cases hp : s.predicate? with
      | none =>
          have idle : ∀ held, filtering.alter relation s held = .ok held := by
            intro held
            simp [filtering, hp]
          rw [mapM_one_of_idle idle]
          exact ih ms
      | some f =>
          have step := overRows_objects fun m (_ : m ∈ ms) =>
            filterEmbedded_object relation hp m
          simp only [step]
          cases ms.mapM (filtering.one (relation, s)) with
          | error e => rfl
          | ok between => exact ih between

theorem overRelations_objects (passed : Scope → Bool)
    (change : Scope → List Value → Except Fault (List Value)) (embedded : Entries Scope)
    (ms : List Members) :
    overRelations passed change embedded (ms.map .object) =
      ((changing passed change).rows embedded ms).map (List.map .object) := by
  induction embedded generalizing ms with
  | nil => rfl
  | cons e rest ih =>
      obtain ⟨relation, s⟩ := e
      unfold overRelations Alteration.rows
      cases hp : passed s with
      | true =>
          have idle : ∀ held, (changing passed change).alter relation s held = .ok held := by
            intro held
            simp [changing, hp]
          rw [if_pos rfl, mapM_one_of_idle idle]
          exact ih ms
      | false =>
          have step := overRows_objects fun m (_ : m ∈ ms) =>
            mapList_object change relation hp m
          simp only [step]
          cases ms.mapM ((changing passed change).one (relation, s)) with
          | error e => rfl
          | ok between => exact ih between

theorem filterRelated_agree {s t : Scope} (alike : s.Alike t) {f g : Filter}
    (hf : s.predicate? = some f) (hg : t.predicate? = some g) {relation : String}
    {related v w : Value} (hv : filterRelated f relation related = .ok v)
    (hw : filterRelated g relation related = .ok w) : v = w := by
  have decide {row : Value} {a b : Bool} (ha : f.holds row = .ok a) (hb : g.holds row = .ok b) :
      a = b := Filter.eq_of_holds_conjoin alike.filters hf hg ha hb
  unfold filterRelated at hv hw
  cases related with
  | null => exact Except.ok.inj (hv.symm.trans hw)
  | object members =>
      dsimp only at hv hw
      split at hv
      · cases hv
      · split at hw
        · cases hw
        · rename_i ha _ _ hb
          obtain rfl := decide ha hb
          exact Except.ok.inj (hv.symm.trans hw)
  | array items =>
      dsimp only at hv hw
      split at hv
      · cases hv
      · split at hw
        · cases hw
        · rename_i ha _ _ hb
          obtain rfl := selectRows_agree (fun row a b => decide) ha hb
          exact Except.ok.inj (hv.symm.trans hw)
  | _ => cases hv

theorem filtering_agree {relation : String} {s t : Scope} {held x y : Option Value}
    (alike : s.Alike t) (hx : filtering.alter relation s held = .ok x)
    (hy : filtering.alter relation t held = .ok y) : x = y := by
  obtain ⟨hp, rfl⟩ | ⟨f, related, left, hp, rfl, hv, rfl⟩ := filtering_cases hx
  · obtain ⟨-, rfl⟩ | ⟨g, _, _, hq, -⟩ := filtering_cases hy
    · rfl
    · rw [alike.predicate_none_iff.mp hp] at hq
      cases hq
  · obtain ⟨hq, -⟩ | ⟨g, _, left', hq, same, hw, rfl⟩ := filtering_cases hy
    · rw [alike.predicate_none_iff.mpr hq] at hp
      cases hp
    · cases same
      rw [filterRelated_agree alike hp hq hv hw]

theorem eq_map_object {rows : List Value} (objects : ∀ row ∈ rows, row.isObject = true) :
    ∃ ms : List Members, rows = ms.map .object := by
  induction rows with
  | nil => exact ⟨[], rfl⟩
  | cons row rest ih =>
      obtain ⟨ms, rfl⟩ := ih fun other ho => objects other (by simp [ho])
      cases row with
      | object members => exact ⟨members :: ms, rfl⟩
      | _ => cases objects _ List.mem_cons_self

section Agreement

variable {embedded others : Entries Scope} {rows out out' : List Value}

theorem filterRelations_agree (alike : AlikeRelations embedded others)
    (objects : ∀ row ∈ rows, row.isObject = true) (h : filterRelations embedded rows = .ok out)
    (h' : filterRelations others rows = .ok out') :
    out = out' ∧ ∀ row ∈ out, row.isObject = true := by
  obtain ⟨ms, rfl⟩ := eq_map_object objects
  rw [filterRelations_objects] at h h'
  obtain ⟨left, hl, rfl⟩ := Outcome.map_eq_ok_iff.mp h
  obtain ⟨right, hr, rfl⟩ := Outcome.map_eq_ok_iff.mp h'
  refine ⟨congrArg _ (Alteration.rows_agree alike filtering_agree hl hr), ?_⟩
  intro row hm
  obtain ⟨m, -, rfl⟩ := List.mem_map.mp hm
  rfl

/-- Orders and windows of relations change every row alike, whatever their order. -/
theorem overRelations_agree {passed : Scope → Bool}
    {change : Scope → List Value → Except Fault (List Value)}
    (same : ∀ {s t}, Scope.Alike s t → passed s = passed t ∧ change s = change t)
    (alike : AlikeRelations embedded others) (objects : ∀ row ∈ rows, row.isObject = true)
    (h : overRelations passed change embedded rows = .ok out)
    (h' : overRelations passed change others rows = .ok out') :
    out = out' ∧ ∀ row ∈ out, row.isObject = true := by
  obtain ⟨ms, rfl⟩ := eq_map_object objects
  rw [overRelations_objects] at h h'
  obtain ⟨left, hl, rfl⟩ := Outcome.map_eq_ok_iff.mp h
  obtain ⟨right, hr, rfl⟩ := Outcome.map_eq_ok_iff.mp h'
  have agree : ∀ {relation s t held x y}, Scope.Alike s t →
      (changing passed change).alter relation s held = .ok x →
        (changing passed change).alter relation t held = .ok y → x = y := by
    intro relation s t held x y alike hx hy
    obtain ⟨pass, changes⟩ := same alike
    simp only [changing, pass, changes] at hx hy
    exact Except.ok.inj (hx.symm.trans hy)
  refine ⟨congrArg _ (Alteration.rows_agree alike agree hl hr), ?_⟩
  intro row hm
  obtain ⟨m, -, rfl⟩ := List.mem_map.mp hm
  rfl

end Agreement

/-- Queries that are the same up to the order of filters and of referenced tables. -/
structure Alike (q r : Query) : Prop where
  scope : q.scope.Alike r.scope
  relations : AlikeRelations q.embedded r.embedded
  projection : q.projection = r.projection

theorem chosenRows_agree {q r : Query} (alike : q.scope.Alike r.scope)
    {rows kept kept' : List Value} (h : q.chosenRows rows = .ok kept)
    (h' : r.chosenRows rows = .ok kept') : kept = kept' ∧ kept ⊆ rows := by
  unfold chosenRows at h h'
  cases hp : q.scope.predicate? with
  | none =>
      rw [hp] at h
      rw [alike.predicate_none_iff.mp hp] at h'
      cases h
      cases h'
      exact ⟨rfl, List.Subset.refl _⟩
  | some f =>
      cases hq : r.scope.predicate? with
      | none =>
          rw [alike.predicate_none_iff.mpr hq] at hp
          cases hp
      | some g =>
          rw [hp] at h
          rw [hq] at h'
          refine ⟨selectRows_agree (fun row a b => ?_) h h', ?_⟩
          · exact Filter.eq_of_holds_conjoin alike.filters hp hq
          · obtain ⟨-, rfl⟩ := selectRows_eq_ok_iff.mp h
            exact List.filter_sublist.subset

theorem keepInner_subset {relations : List String} {rows kept : List Value}
    (h : keepInner relations rows = .ok kept) : kept ⊆ rows := by
  induction relations generalizing rows with
  | nil =>
      cases h
      exact List.Subset.refl _
  | cons relation rest ih =>
      unfold keepInner at h
      split at h
      · cases h
      · rename_i some_rows hs
        obtain ⟨-, rfl⟩ := selectRows_eq_ok_iff.mp hs
        exact List.Subset.trans (ih h) List.filter_sublist.subset

theorem run_agree {q r : Query} (alike : q.Alike r) {rows : List Value}
    (objects : ∀ row ∈ rows, row.isObject = true) {a b : QueryResult} (ha : q.run rows = .ok a)
    (hb : r.run rows = .ok b) : a = b := by
  obtain ⟨found, sorted, shown, projected, hm, ho, hw, hp, rfl⟩ := run_eq_ok_iff.mp ha
  obtain ⟨found', sorted', shown', projected', hm', ho', hw', hp', rfl⟩ := run_eq_ok_iff.mp hb
  obtain ⟨kept, narrowed, hc, hn, hk⟩ := matching_eq_ok_iff.mp hm
  obtain ⟨kept', narrowed', hc', hn', hk'⟩ := matching_eq_ok_iff.mp hm'
  obtain ⟨own, hown, hr⟩ := ordered_eq_ok_iff.mp ho
  obtain ⟨own', hown', hr'⟩ := ordered_eq_ok_iff.mp ho'
  rw [orderRelations_eq] at hr hr'
  rw [windowRelations_eq] at hw hw'
  rw [← alike.scope.window] at hw' ⊢
  rw [← alike.scope.order] at hown'
  rw [← alike.projection] at hk' hp'
  obtain ⟨rfl, within⟩ := chosenRows_agree alike.scope hc hc'
  obtain ⟨rfl, objects'⟩ :=
    filterRelations_agree alike.relations (fun row hr => objects row (within hr)) hn hn'
  cases hk.symm.trans hk'
  cases hown.symm.trans hown'
  have own_objects : ∀ row ∈ own, row.isObject = true := fun row hr =>
    objects' row (keepInner_subset hk ((orderRows_perm hown).mem_iff.mp hr))
  have orders {s t : Scope} (alike : s.Alike t) :
      s.order.isEmpty = t.order.isEmpty ∧ orderRows s.order = orderRows t.order := by
    rw [alike.order]
    exact ⟨rfl, rfl⟩
  obtain ⟨rfl, sorted_objects⟩ := overRelations_agree orders alike.relations own_objects hr hr'
  have windows {s t : Scope} (alike : s.Alike t) :
      decide (s.window = .whole) = decide (t.window = .whole) ∧
        (fun items : List Value => (.ok (s.window.apply items) : Except Fault (List Value))) =
          fun items => .ok (t.window.apply items) := by
    rw [alike.window]
    exact ⟨rfl, rfl⟩
  have page_objects : ∀ row ∈ q.scope.window.apply sorted, row.isObject = true :=
    fun row hr => sorted_objects row (Window.apply_subset _ _ hr)
  obtain ⟨rfl, -⟩ := overRelations_agree windows alike.relations page_objects hw hw'
  cases hp.symm.trans hp'
  rfl

end Query

end TableServer
