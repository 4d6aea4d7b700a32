import TableServer.Proofs.Grammar.Neutral
import TableServer.Proofs.Select.Reader
import TableServer.Proofs.Text.Parts

/-! Select lists and their texts. A projection of plain names can be spelt in many ways: in any
order of its items that keeps the columns and the embeds each in theirs, with blanks around the
items, and with casts behind the columns. Each of these texts is read as the projection, whatever
its depth. -/
namespace TableServer

open Grammar

/-- Characters that separate or enclose the parts of a select list, and the line feed. -/
def selectMarks : List Char :=
  [',', ':', '!', '(', ')', '[', ']', '\x7b', '\x7d', '"', '\n']

/-- Names that a select list spells as they are. -/
structure PlainName (name : String) : Prop where
  filled : name ≠ ""
  unstarred : name ≠ "*"
  unmarked : ∀ c ∈ name.toList, c ∉ selectMarks
  trimmed : Text.Trimmed name.toList

structure ColumnRef.Plain (c : ColumnRef) : Prop where
  name : PlainName c.name
  label : ∀ l ∈ c.label, PlainName l

structure Embed.Plain (e : Embed) : Prop where
  relation : PlainName e.relation
  label : ∀ l ∈ e.label, PlainName l

theorem Grammar.Neutral.isPlain_of_unmarked {c : Char} (h : c ∉ selectMarks) :
    isPlain c = true := by
  simp only [selectMarks, List.mem_cons, List.not_mem_nil, or_false, not_or] at h
  simp [isPlain, closerOf?, closers, h]

namespace PlainName

variable {name : String}

theorem exists_cons (h : PlainName name) : ∃ c rest, name.toList = c :: rest :=
  List.exists_cons_of_ne_nil fun empty => h.filled (by simpa using empty)

theorem not_mem (h : PlainName name) {mark : Char} (marks : mark ∈ selectMarks) :
    mark ∉ name.toList :=
  fun hm => h.unmarked mark hm marks

theorem all_isPlain (h : PlainName name) : name.toList.all Neutral.isPlain = true :=
  List.all_eq_true.mpr fun c hc => Neutral.isPlain_of_unmarked (h.unmarked c hc)

end PlainName

namespace Projection

/-- Projections whose names are plain at every depth. -/
inductive Plain : Projection → Prop where
  | intro {p : Projection} : (∀ c ∈ p.columns, c.Plain) → (∀ e ∈ p.embeds, e.1.Plain) →
      (∀ e ∈ p.embeds, Plain e.2) → Plain p

def labelled (label : Option String) (text : List Char) : List Char :=
  match label with
  | none => text
  | some l => l.toList ++ ':' :: text

/-- What may stand behind the name of a column: nothing, or a type of unmarked characters, such as
letters. -/
inductive Cast : List Char → Prop where
  | none : Cast []
  | type {type : List Char} : (∀ c ∈ type, c ∉ selectMarks ∧ Text.isBlank c = false) →
      Cast (':' :: ':' :: type)

def embedHead (e : Embed) : List Char :=
  labelled e.label (e.relation.toList ++ if e.inner then "!inner".toList else [])

namespace Item

def column? : Item → Option ColumnRef
  | column c => some c
  | _ => none

def embed? : Item → Option (Embed × Projection)
  | embed e inner => some (e, inner)
  | _ => none

def isWildcard : Item → Bool
  | wildcard => true
  | _ => false

end Item

/-- Items that list the columns of a projection and its embeds, each in their order, and the
wildcard where it has one. -/
structure ListedAs (items : List Item) (p : Projection) : Prop where
  wildcard : items.any Item.isWildcard = p.wildcard
  columns : items.filterMap Item.column? = p.columns
  embeds : items.filterMap Item.embed? = p.embeds

/-- The texts of an item. Within the parentheses of an embed stand the texts of its own items. -/
inductive Item.Spells : Item → List Char → Prop where
  | wildcard : Spells .wildcard ['*']
  | column (c : ColumnRef) {cast : List Char} : Cast cast →
      Spells (.column c) (labelled c.label (c.name.toList ++ cast))
  | embed (e : Embed) {inner : Projection} (parts : List (Item × List Char)) :
      (∀ part ∈ parts, Spells part.1 part.2) → ListedAs (parts.map Prod.fst) inner →
      Spells (.embed e inner)
        (embedHead e ++ '(' :: (List.intercalate [','] (parts.map Prod.snd) ++ [')']))
  | padded {item : Item} {text before after : List Char} : Spells item text →
      (∀ c ∈ before, Text.isBlank c = true) → (∀ c ∈ after, Text.isBlank c = true) →
      Spells item (before ++ (text ++ after))

/-- The texts of a projection: those of its items, with commas between them. -/
def Spelling (p : Projection) (text : List Char) : Prop :=
  ∃ parts : List (Item × List Char), (∀ part ∈ parts, part.1.Spells part.2) ∧
    ListedAs (parts.map Prod.fst) p ∧ text = List.intercalate [','] (parts.map Prod.snd)

theorem ofItems_eq (items : List Item) :
    ofItems items =
      ⟨items.any Item.isWildcard, items.filterMap Item.column?, items.filterMap Item.embed?⟩ := by
  suffices folded : ∀ p : Projection, items.foldl add p =
      ⟨p.wildcard || items.any Item.isWildcard, p.columns ++ items.filterMap Item.column?,
        p.embeds ++ items.filterMap Item.embed?⟩ from folded ⟨false, [], []⟩
  induction items with
  | nil =>
      rintro ⟨wildcard, columns, embeds⟩
      simp
  | cons item rest ih =>
      intro p
      rw [List.foldl_cons, ih]
      cases item <;>
        simp [add, Item.isWildcard, Item.column?, Item.embed?, List.filterMap_cons]

theorem ListedAs.ofItems_eq {items : List Item} {p : Projection} (h : ListedAs items p) :
    ofItems items = p := by
  obtain ⟨wildcard, columns, embeds⟩ := p
  rw [Projection.ofItems_eq, h.wildcard, h.columns, h.embeds]

/-! ## Labels -/

section Labels

variable {label : Option String} (plain : ∀ l ∈ label, PlainName l) {text : List Char}
include plain

theorem trimmed_labelled (trimmed : Text.Trimmed text) : Text.Trimmed (labelled label text) := by
  cases label with
  | none => exact trimmed
  | some l =>
      have colon : Text.Trimmed [':'] := .of_all (by decide)
      exact (plain l rfl).trimmed.append (colon.append trimmed)

theorem all_isPlain_labelled (plainText : text.all Neutral.isPlain = true) :
    (labelled label text).all Neutral.isPlain = true := by
  cases label with
  | none => exact plainText
  | some l =>
      have colon : Neutral.isPlain ':' = true := by decide
      simp [labelled, (plain l rfl).all_isPlain, colon, plainText]

/-- Texts behind a name that tell nothing of a label: no single colon follows the name. -/
structure Trails (tail : List Char) : Prop where
  uncolon : ':' ∉ tail ∨ ∃ type, tail = ':' :: ':' :: type
  oneLine : '\n' ∉ tail
  trimmed : Text.Trimmed tail

theorem splitAlias_labelled {name : String} (named : PlainName name) {tail : List Char}
    (trails : Trails tail) :
    splitAlias (labelled label (name.toList ++ tail)) =
      (name.toList ++ tail, label.map String.toList) := by
  have uncolon : ':' ∉ name.toList := named.not_mem (by decide)
  have oneLine : '\n' ∉ name.toList := named.not_mem (by decide)
  obtain ⟨c, rest, hn⟩ := named.exists_cons
  cases label with
  | none =>
      rcases trails.uncolon with absent | ⟨type, rfl⟩
      · rw [labelled, splitAlias, Text.cut?_eq_none (by simp [uncolon, absent])]
        rfl
      · have cut := Text.cut?_append uncolon (':' :: type)
        rw [hn] at cut
        rw [labelled, splitAlias, hn, cut]
        simp
  | some l =>
      obtain ⟨d, front, hl⟩ := (plain l rfl).exists_cons
      have cut : Text.cut? ':' (labelled (some l) (name.toList ++ tail)) =
          some (l.toList, name.toList ++ tail) :=
        Text.cut?_append ((plain l rfl).not_mem (by decide)) _
      have whole : ¬(c = ':' ∨ '\n' ∈ c :: (rest ++ tail)) := by
        simp only [hn, List.mem_cons, not_or] at uncolon oneLine
        simp [Ne.symm uncolon.1, oneLine, trails.oneLine]
      have target := (named.trimmed.append trails.trimmed).trim_eq
      rw [hn, List.cons_append] at cut target ⊢
      rw [hl] at cut
      rw [splitAlias, cut]
      dsimp only
      rw [if_neg whole, target, ← hl, (plain l rfl).trimmed.trim_eq]
      rfl

end Labels

/-! ## Columns -/

namespace Cast

variable {cast : List Char}

theorem trails (h : Cast cast) : Trails cast := by
  cases h with
  | none => exact ⟨.inl (by simp), by simp, ⟨by simp, by simp⟩⟩
  | @type type letters =>
      refine ⟨.inr ⟨type, rfl⟩, ?_, .of_no_blank ?_⟩
      · have absent : '\n' ∉ type := fun hm => (letters _ hm).1 (by decide)
        simp [absent]
      · simpa using ⟨(by decide : Text.isBlank ':' = false), fun c hc => (letters c hc).2⟩

theorem all_isPlain (h : Cast cast) : cast.all Neutral.isPlain = true := by
  cases h with
  | none => rfl
  | type letters =>
      have colon : Neutral.isPlain ':' = true := by decide
      have rest := List.all_eq_true.mpr fun c hc => Neutral.isPlain_of_unmarked (letters c hc).1
      simp [colon, rest]

theorem beforeMark_eq (h : Cast cast) {name : String} (named : PlainName name) :
    Text.beforeMark [':', ':'] (name.toList ++ cast) = name.toList := by
  have uncolon : ':' ∉ name.toList := named.not_mem (by decide)
  cases h with
  | none => rw [List.append_nil, Text.beforeMark_of_not_mem _ uncolon]
  | type _ => exact Text.beforeMark_append [':'] uncolon _

end Cast

theorem readColumn_labelled {c : ColumnRef} (plain : c.Plain) {cast : List Char} (h : Cast cast) :
    readColumn (labelled c.label (c.name.toList ++ cast)) = c := by
  have name := plain.name.trimmed.trim_eq
  unfold readColumn
  rw [splitAlias_labelled plain.label plain.name h.trails]
  dsimp only
  rw [h.beforeMark_eq plain.name, name]
  simp [Function.comp_def]

/-! ## Embeds -/

theorem trails_inner (inner : Bool) : Trails (if inner then "!inner".toList else []) := by
  cases inner with
  | false => exact Cast.none.trails
  | true => exact ⟨.inl (by decide), by decide, .of_all (by decide)⟩

section Embeds

variable {e : Embed} (plain : e.Plain)
include plain

theorem trimmed_embedHead : Text.Trimmed (embedHead e) :=
  trimmed_labelled plain.label (plain.relation.trimmed.append (trails_inner e.inner).trimmed)

theorem all_isPlain_embedHead : (embedHead e).all Neutral.isPlain = true := by
  have hint : (if e.inner then "!inner".toList else []).all Neutral.isPlain = true := by
    cases e.inner <;> rfl
  have named : (e.relation.toList ++ if e.inner then "!inner".toList else []).all Neutral.isPlain =
      true := by
    rw [List.all_append, plain.relation.all_isPlain, hint]
    rfl
  exact all_isPlain_labelled plain.label named

theorem readEmbed_embedHead (item : List Char) : readEmbed item (embedHead e) = .ok e := by
  have bare : '!' ∉ e.relation.toList := plain.relation.not_mem (by decide)
  obtain ⟨c, rest, hr⟩ := plain.relation.exists_cons
  have parts : Text.splitOn '!' (e.relation.toList ++ if e.inner then "!inner".toList else []) =
      e.relation.toList :: if e.inner then ["inner".toList] else [] := by
    cases e.inner with
    | false => simpa using Text.splitOn_of_not_mem bare
    | true => exact Text.splitOn_append bare _
  unfold readEmbed
  rw [(trimmed_embedHead plain).trim_eq, embedHead,
    splitAlias_labelled plain.label plain.relation (trails_inner e.inner)]
  dsimp only
  have told : (if e.inner then ["inner".toList] else []).contains "inner".toList = e.inner := by
    cases e.inner <;> rfl
  rw [parts, hr]
  dsimp only
  rw [← hr, plain.relation.trimmed.trim_eq, told]
  simp [Function.comp_def]

theorem embedParts?_embedHead (body : List Char) :
    embedParts? (embedHead e ++ '(' :: (body ++ [')'])) = some (embedHead e, body) := by
  have closed : '(' ∉ embedHead e := fun hm => by
    simpa [Neutral.isPlain, closerOf?] using
      List.all_eq_true.mp (all_isPlain_embedHead plain) '(' hm
  simp [embedParts?, Text.cut?_append closed]

end Embeds

/-! ## Lists of items -/

/-- A text that is one part of a select list and is read as an item. -/
structure ReadsAs (item : Item) (text : List Char) : Prop where
  neutral : Neutral false text
  filled : Text.trim text ≠ []
  read : readItem (Text.trim text) = .ok item

theorem read_intercalate {parts : List (Item × List Char)}
    (h : ∀ part ∈ parts, ReadsAs part.1 part.2) :
    read (List.intercalate [','] (parts.map Prod.snd)) = .ok (ofItems (parts.map Prod.fst)) := by
  have items : listedItems (List.intercalate [','] (parts.map Prod.snd)) =
      .ok (parts.map (Text.trim ∘ Prod.snd)) := by
    cases parts with
    | nil => rfl
    | cons part rest =>
        have split : splitTopLevel ',' (List.intercalate [','] ((part :: rest).map Prod.snd)) =
            .ok ((part :: rest).map Prod.snd) := by
          refine splitTopLevel_intercalate fun text ht => ?_
          obtain ⟨other, ho, rfl⟩ := List.mem_map.mp (List.map_cons ▸ ht)
          exact (h other ho).neutral
        have filled : ((part :: rest).map (Text.trim ∘ Prod.snd)).filter (!·.isEmpty) =
            (part :: rest).map (Text.trim ∘ Prod.snd) := by
          refine List.filter_eq_self.mpr fun text ht => ?_
          obtain ⟨other, ho, rfl⟩ := List.mem_map.mp ht
          simpa using (h other ho).filled
        rw [listedItems, split, Except.map, List.map_map, filled]
  have found : (parts.map (Text.trim ∘ Prod.snd)).mapM readItem = .ok (parts.map Prod.fst) := by
    rw [List.mapM_map]
    exact Outcome.mapM_eq_ok_map fun part hp => (h part hp).read
  rw [read_eq, items, Except.bind, found]
  rfl

def Item.Plain : Item → Prop
  | wildcard => True
  | column c => c.Plain
  | embed e inner => e.Plain ∧ inner.Plain

theorem ListedAs.plain {items : List Item} {p : Projection} (h : ListedAs items p)
    (plain : p.Plain) : ∀ item ∈ items, item.Plain := by
  obtain ⟨columns, embeds, inner⟩ := plain
  intro item hi
  cases item with
  | wildcard => trivial
  | column c => exact columns c (h.columns ▸ List.mem_filterMap.mpr ⟨_, hi, rfl⟩)
  | embed e q =>
      have there : (e, q) ∈ p.embeds := h.embeds ▸ List.mem_filterMap.mpr ⟨_, hi, rfl⟩
      exact ⟨embeds _ there, inner _ there⟩

theorem readsAs_wildcard : ReadsAs .wildcard ['*'] :=
  ⟨.of_plain rfl, by decide, by rfl⟩

theorem readsAs_column {c : ColumnRef} (plain : c.Plain) {cast : List Char} (h : Cast cast) :
    ReadsAs (.column c) (labelled c.label (c.name.toList ++ cast)) := by
  have named : (c.name.toList ++ cast).all Neutral.isPlain = true := by
    rw [List.all_append, plain.name.all_isPlain, h.all_isPlain]
    rfl
  have characters := all_isPlain_labelled plain.label named
  have trimmed := trimmed_labelled plain.label (plain.name.trimmed.append h.trails.trimmed)
  have name := readColumn_labelled plain h
  have unstarred : labelled c.label (c.name.toList ++ cast) ≠ ['*'] := by
    intro star
    rw [star] at name
    exact plain.name.unstarred (name ▸ rfl)
  have filled : labelled c.label (c.name.toList ++ cast) ≠ [] := by
    intro empty
    rw [empty] at name
    exact plain.name.filled (name ▸ rfl)
  have unopened : '(' ∉ labelled c.label (c.name.toList ++ cast) := fun hm => by
    simpa [Neutral.isPlain, closerOf?] using List.all_eq_true.mp characters '(' hm
  refine ⟨.of_plain characters, by rwa [trimmed.trim_eq], ?_⟩
  rw [trimmed.trim_eq, readItem, if_neg unstarred, embedParts?, Text.cut?_eq_none unopened]
  exact congrArg (Except.ok ∘ Item.column) name

theorem readsAs_embed {e : Embed} (plain : e.Plain) {inner : Projection}
    {parts : List (Item × List Char)} (h : ∀ part ∈ parts, ReadsAs part.1 part.2)
    (listed : ListedAs (parts.map Prod.fst) inner) :
    ReadsAs (.embed e inner)
      (embedHead e ++ '(' :: (List.intercalate [','] (parts.map Prod.snd) ++ [')'])) := by
  have body : Neutral true (List.intercalate [','] (parts.map Prod.snd)) := by
    refine .intercalate fun text ht => ?_
    obtain ⟨part, hp, rfl⟩ := List.mem_map.mp ht
    exact (h part hp).neutral.inside
  have pair : closerOf? '(' = some ')' := rfl
  have trimmed := (trimmed_embedHead plain).append (Text.Trimmed.of_ends
    (by decide : Text.isBlank '(' = false) (by decide : Text.isBlank ')' = false)
    (List.intercalate [','] (parts.map Prod.snd)))
  have unstarred : embedHead e ++ '(' :: (List.intercalate [','] (parts.map Prod.snd) ++ [')']) ≠
      ['*'] := fun star => by
    have opened : '(' ∈ ['*'] := star ▸ by simp
    exact absurd opened (by decide)
  refine ⟨(Neutral.of_plain (all_isPlain_embedHead plain)).append (.bracketed pair body .nil),
    by simp [trimmed.trim_eq], ?_⟩
  rw [trimmed.trim_eq, readItem, if_neg unstarred, embedParts?_embedHead plain]
  dsimp only
  rw [readEmbed_embedHead plain, read_intercalate h, listed.ofItems_eq]
  rfl

theorem ReadsAs.padded {item : Item} {text before after : List Char} (h : ReadsAs item text)
    (hb : ∀ c ∈ before, Text.isBlank c = true) (ha : ∀ c ∈ after, Text.isBlank c = true) :
    ReadsAs item (before ++ (text ++ after)) := by
  have same := Text.trim_padded hb ha text
  exact ⟨(Neutral.of_blank hb).append (h.neutral.append (.of_blank ha)), same ▸ h.filled,
    same ▸ h.read⟩

theorem readsAs_of_spells {item : Item} {text : List Char} (h : item.Spells text) :
    item.Plain → ReadsAs item text := by
  induction h with
  | wildcard => exact fun _ => readsAs_wildcard
  | column c cast => exact fun plain => readsAs_column plain cast
  | embed e parts _ listed ih =>
      rintro ⟨plain, inner⟩
      refine readsAs_embed plain (fun part hp => ih part hp ?_) listed
      exact listed.plain inner part.1 (List.mem_map_of_mem hp)
  | padded _ hb ha ih => exact fun plain => (ih plain).padded hb ha

theorem exists_parts {items : List Item} (h : ∀ item ∈ items, ∃ text, item.Spells text) :
    ∃ parts : List (Item × List Char), (∀ part ∈ parts, part.1.Spells part.2) ∧
      parts.map Prod.fst = items := by
  induction items with
  | nil => exact ⟨[], by simp, rfl⟩
  | cons item rest ih =>
      obtain ⟨text, spelt⟩ := h item (by simp)
      obtain ⟨parts, all, rfl⟩ := ih fun other ho => h other (by simp [ho])
      exact ⟨(item, text) :: parts, List.forall_mem_cons.mpr ⟨spelt, all⟩, rfl⟩

/-- The wildcard, then the columns, then the embeds. -/
def items (p : Projection) : List Item :=
  (if p.wildcard then [.wildcard] else []) ++ p.columns.map .column ++
    p.embeds.map fun e => .embed e.1 e.2

theorem listedAs_items (p : Projection) : ListedAs p.items p := by
  obtain ⟨wildcard, columns, embeds⟩ := p
  have named : Item.column? ∘ Item.column = some := rfl
  have unnamed : (Item.column? ∘ fun e : Embed × Projection => Item.embed e.1 e.2) =
      fun _ => none := rfl
  have embedded : (Item.embed? ∘ fun e : Embed × Projection => Item.embed e.1 e.2) = some := rfl
  have bare : Item.embed? ∘ Item.column = fun _ => none := rfl
  constructor
  · cases wildcard <;> simp [items, Item.isWildcard]
  · cases wildcard <;> simp [items, named, unnamed, Item.column?, List.filterMap_cons]
  · cases wildcard <;> simp [items, embedded, bare, Item.embed?, List.filterMap_cons]

theorem Plain.exists_spelling {p : Projection} (plain : p.Plain) : ∃ text, p.Spelling text := by
  induction plain with
  | @intro p _ _ _ ih =>
      have each : ∀ item ∈ p.items, ∃ text, item.Spells text := by
        intro item hi
        simp only [items, List.mem_append, List.mem_map] at hi
        rcases hi with (wildcard | ⟨c, -, rfl⟩) | ⟨e, he, rfl⟩
        · obtain rfl : item = .wildcard := by
            split at wildcard <;> simp_all
          exact ⟨_, .wildcard⟩
        · exact ⟨_, .column c .none⟩
        · obtain ⟨_, parts, spelt, listed, rfl⟩ := ih e he
          exact ⟨_, .embed e.1 parts spelt listed⟩
      obtain ⟨parts, spelt, names⟩ := exists_parts each
      exact ⟨_, parts, spelt, names ▸ p.listedAs_items, rfl⟩

/-- Every projection of plain names has a text, and each of its texts is read as that projection. -/
theorem read_spelling {p : Projection} (plain : p.Plain) :
    (∃ text, p.Spelling text) ∧ ∀ text, p.Spelling text → read text = .ok p := by
  refine ⟨plain.exists_spelling, ?_⟩
  rintro _ ⟨parts, spelt, listed, rfl⟩
  have parted : ∀ part ∈ parts, ReadsAs part.1 part.2 := fun part hp =>
    readsAs_of_spells (spelt part hp) (listed.plain plain part.1 (List.mem_map_of_mem hp))
  rw [read_intercalate parted, listed.ofItems_eq]

def authoredPosts : Projection :=
  ⟨true, [⟨"id", none⟩, ⟨"title", some "name"⟩], [(⟨"users", some "author", true⟩,
    ⟨false, [⟨"bio", none⟩], [(⟨"posts", none, false⟩, ⟨false, [], []⟩)]⟩)]⟩

theorem authoredPosts_plain : authoredPosts.Plain := by
  have name (s : String) (h : s ∈ ["id", "title", "name", "users", "author", "bio", "posts"]) :
      PlainName s := by
    simp only [List.mem_cons, List.not_mem_nil, or_false] at h
    rcases h with rfl | rfl | rfl | rfl | rfl | rfl | rfl <;>
      exact ⟨by decide, by decide, by simp [selectMarks], .of_all (by decide)⟩
  have empty : Plain ⟨false, [], []⟩ := .intro (by simp) (by simp) (by simp)
  have inner : Plain ⟨false, [⟨"bio", none⟩], [(⟨"posts", none, false⟩, ⟨false, [], []⟩)]⟩ := by
    refine .intro ?_ ?_ ?_
    · simpa using (⟨name _ (by simp), by simp⟩ : ColumnRef.Plain ⟨"bio", none⟩)
    · simpa using (⟨name _ (by simp), by simp⟩ : Embed.Plain ⟨"posts", none, false⟩)
    · simpa using empty
  refine .intro ?_ ?_ ?_
  · have id : ColumnRef.Plain ⟨"id", none⟩ := ⟨name _ (by simp), by simp⟩
    have title : ColumnRef.Plain ⟨"title", some "name"⟩ :=
      ⟨name _ (by simp), by simpa using name "name" (by simp)⟩
    simpa [authoredPosts] using ⟨id, title⟩
  · have author : Embed.Plain ⟨"users", some "author", true⟩ :=
      ⟨name _ (by simp), by simpa using name "author" (by simp)⟩
    simpa [authoredPosts] using author
  · simpa [authoredPosts] using inner

theorem read_authoredPosts :
    read "id, name:title::text ,author:users!inner( bio,posts()),*".toList = .ok authoredPosts := by
  have blank : ∀ c ∈ [' '], Text.isBlank c = true := List.forall_mem_singleton.mpr (by decide)
  have letters : ∀ c ∈ "text".toList, c ∉ selectMarks ∧ Text.isBlank c = false := by
    simp [selectMarks]
    decide
  have type : Cast "::text".toList := .type letters
  have posts : Item.Spells (.embed ⟨"posts", none, false⟩ ⟨false, [], []⟩) "posts()".toList :=
    .embed ⟨"posts", none, false⟩ [] (by simp) ⟨rfl, rfl, rfl⟩
  have bio : Item.Spells (.column ⟨"bio", none⟩) " bio".toList :=
    .padded (.column ⟨"bio", none⟩ .none) blank (by simp)
  have author : Item.Spells (.embed ⟨"users", some "author", true⟩
      ⟨false, [⟨"bio", none⟩], [(⟨"posts", none, false⟩, ⟨false, [], []⟩)]⟩)
      "author:users!inner( bio,posts())".toList :=
    .embed ⟨"users", some "author", true⟩ [(_, _), (_, _)]
      (List.forall_mem_cons.mpr ⟨bio, List.forall_mem_cons.mpr ⟨posts, by simp⟩⟩) ⟨rfl, rfl, rfl⟩
  have id : Item.Spells (.column ⟨"id", none⟩) "id".toList := .column ⟨"id", none⟩ .none
  have title : Item.Spells (.column ⟨"title", some "name"⟩) " name:title::text ".toList :=
    .padded (.column ⟨"title", some "name"⟩ type) blank blank
  exact (read_spelling authoredPosts_plain).2 _ ⟨[(_, _), (_, _), (_, _), (_, _)],
    List.forall_mem_cons.mpr ⟨id, List.forall_mem_cons.mpr ⟨title, List.forall_mem_cons.mpr
      ⟨author, List.forall_mem_cons.mpr ⟨.wildcard, by simp⟩⟩⟩⟩, ⟨rfl, rfl, rfl⟩, rfl⟩

end Projection

end TableServer
