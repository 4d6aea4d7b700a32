import TableServer.Proofs.Column.Path
import TableServer.Proofs.Number.Numeral

/-! Paths step by step. What a path spells is read back as the path, and following it goes to a
member or to an item at each step, and to null where there is nothing to find. Only a place with
more digits than an integer may have is not passed over: looking for it in a list fails. -/
namespace TableServer

section Written

def Arrow.mark : Arrow → List Char
  | value => ['-', '>']
  | text => ['-', '>', '>']

namespace Step

def written (s : Step) : List Char :=
  s.arrow.mark ++ s.key

structure Plain (s : Step) : Prop where
  arrowless : Arrowless s.key
  start : s.key.head? ≠ some '>'

end Step

namespace Path

def written (p : Path) : List Char :=
  p.base ++ p.steps.flatMap Step.written

structure Plain (p : Path) : Prop where
  base : Arrowless p.base
  steps : ∀ s ∈ p.steps, s.Plain

theorem head?_steps (steps : List Step) : (steps.flatMap Step.written).head? ≠ some '>' := by
  cases steps with
  | nil => decide
  | cons s rest =>
      rw [List.flatMap_cons, Step.written]
      cases s.arrow <;> simp [Arrow.mark]

theorem read_steps {steps : List Step} (plain : ∀ s ∈ steps, s.Plain) :
    read (steps.flatMap Step.written) = ⟨[], steps⟩ := by
  induction steps with
  | nil => rfl
  | cons s rest ih =>
      obtain ⟨first, others⟩ := List.forall_mem_cons.mp plain
      obtain ⟨arrow, key⟩ := s
      have behind : read (key ++ rest.flatMap Step.written) = ⟨key, rest⟩ := by
        rw [read_append first.arrowless (head?_steps rest), ih others, List.append_nil]
      have start : (key ++ rest.flatMap Step.written).head? ≠ some '>' := by
        cases key with
        | nil => exact head?_steps rest
        | cons c key => exact first.start
      rw [List.flatMap_cons, Step.written, List.append_assoc]
      cases arrow with
      | value =>
          rw [Arrow.mark, List.cons_append, List.cons_append, List.nil_append, read.eq_2, behind]
          rintro more he
          exact start (by rw [he]; rfl)
      | text =>
          rw [Arrow.mark, List.cons_append, List.cons_append, List.cons_append, List.nil_append,
            read.eq_1, behind]

theorem read_written {p : Path} (plain : p.Plain) : read p.written = p := by
  rw [written, read_append plain.base (head?_steps p.steps), read_steps plain.steps,
    List.append_nil]

end Path

end Written

section Decimal

/-- Decimal forms of integers: figures, behind a minus sign where the integer is below zero. -/
inductive IsDecimal : List Char → Int → Prop where
  | natural {figures : List Char} : figures ≠ [] → (∀ c ∈ figures, IsFigure c) →
      IsDecimal figures (Number.ofDigits (Number.digitValues figures))
  | negative {figures : List Char} : figures ≠ [] → (∀ c ∈ figures, IsFigure c) →
      IsDecimal ('-' :: figures) (-(Number.ofDigits (Number.digitValues figures)))

/-- Minus signs with digit characters of any script behind them. -/
def IsIndex (key : List Char) : Prop :=
  ∃ (signs : Nat) (figures : List Char), key = List.replicate signs '-' ++ figures ∧
    figures ≠ [] ∧ ∀ c ∈ figures, Text.isDigitFigure c = true

/-- Places of more digits than an integer may have. -/
structure Overlong (key : List Char) : Prop where
  decimal : ∃ i, IsDecimal key i
  digits : Number.digitLimit < key.countP Char.isDigit

variable {key figures : List Char} {i : Int}

theorem isDecimal_toString (i : Int) : IsDecimal (toString i).toList i := by
  have natural (n : Nat) : IsDecimal (numeral n) n := by
    have told := IsDecimal.natural (numeral_ne_nil n) fun c hc => isFigure_of_mem_numeral hc
    rwa [Number.digitValues, Number.ofDigits_numeral] at told
  cases i with
  | ofNat n => exact natural n
  | negSucc n =>
      have told :=
        IsDecimal.negative (numeral_ne_nil (n + 1)) fun c hc => isFigure_of_mem_numeral hc
      rw [Number.digitValues, Number.ofDigits_numeral] at told
      have spelt : (toString (Int.negSucc n)).toList = '-' :: numeral (n + 1) := by
        change ("-" ++ toString (n + 1)).toList = _
        rw [String.toList_append]
        rfl
      rw [spelt]
      exact told

theorem IsFigure.isDigit {c : Char} (h : IsFigure c) : c.isDigit = true := by
  obtain ⟨low, high⟩ := h
  simp only [Char.isDigit, Bool.and_eq_true, decide_eq_true_eq, UInt32.le_iff_toNat_le]
  exact ⟨low, high⟩

theorem countP_figures (h : ∀ c ∈ figures, IsFigure c) :
    figures.countP Char.isDigit = figures.length :=
  List.countP_eq_length.mpr fun c hc => (h c hc).isDigit

theorem isIndexKey_iff : isIndexKey key = true ↔ IsIndex key := by
  unfold isIndexKey
  simp only [Bool.and_eq_true, Bool.not_eq_true', List.isEmpty_eq_false_iff, List.all_eq_true]
  constructor
  · rintro ⟨filled, figures⟩
    refine ⟨(key.takeWhile (· = '-')).length, key.dropWhile (· = '-'), ?_, filled, figures⟩
    have signs : key.takeWhile (· = '-') = List.replicate (key.takeWhile (· = '-')).length '-' :=
      List.eq_replicate_iff.mpr ⟨rfl, fun c hc => by
        simpa using List.all_eq_true.mp List.all_takeWhile c hc⟩
    rw [← signs, List.takeWhile_append_dropWhile]
  · rintro ⟨signs, figures, rfl, filled, digits⟩
    have dropped : (List.replicate signs '-' ++ figures).dropWhile (· = '-') = figures := by
      rw [List.dropWhile_append_of_pos (by simp)]
      cases figures with
      | nil => rfl
      | cons c rest =>
          have apart : c ≠ '-' := by
            rintro rfl
            exact absurd (digits '-' (by simp)) (by decide)
          rw [List.dropWhile_cons_of_neg (by simpa using apart)]
    rw [dropped]
    exact ⟨filled, digits⟩

namespace IsDecimal

theorem isIndex (h : IsDecimal key i) : IsIndex key := by
  have digit {c : Char} (h : IsFigure c) : Text.isDigitFigure c = true := by
    have decimal := h.isDecimal
    rw [Text.isDecimal] at decimal
    rw [Text.isDigitFigure, decimal, Bool.true_or]
  cases h with
  | natural filled figures => exact ⟨0, _, rfl, filled, fun c hc => digit (figures c hc)⟩
  | negative filled figures => exact ⟨1, _, rfl, filled, fun c hc => digit (figures c hc)⟩

theorem unique {j : Int} (h : IsDecimal key i) (h' : IsDecimal key j) : i = j := by
  have minus : ¬IsFigure '-' := by
    rintro ⟨low, -⟩
    exact absurd low (by decide)
  cases h with
  | natural _ figures =>
      cases h' with
      | natural => rfl
      | negative => exact absurd (figures '-' (by simp)) minus
  | negative =>
      cases h' with
      | natural _ figures => exact absurd (figures '-' (by simp)) minus
      | negative => rfl

theorem readInteger_eq (h : IsDecimal key i) : Number.readInteger key =
    if Number.digitLimit < key.countP Char.isDigit then .error (.tooLong (key.countP Char.isDigit))
    else .ok i := by
  have trimmed {text : List Char} (figures : ∀ c ∈ text, IsFigure c) :
      ∀ c ∈ text, Number.isBlankAround c = false := fun c hc => by
    rw [Number.isBlankAround, (figures c hc).not_isBlank, Bool.false_and]
  cases h with
  | natural filled figures =>
      obtain ⟨c, rest, hc⟩ := List.exists_cons_of_ne_nil filled
      have unsigned : Number.splitSign key = (false, key) := by
        rw [hc]
        exact Number.splitSign_of_figure (figures c (by simp [hc])) rest
      simp only [Number.readInteger, Text.trimWhere_of_none (trimmed figures), unsigned,
        Number.scanDigits_of_figures figures fun _ => filled, List.length_map,
        countP_figures figures, List.isEmpty_nil, if_true]
      rfl
  | @negative text filled figures =>
      have around : ∀ c ∈ '-' :: text, Number.isBlankAround c = false :=
        List.forall_mem_cons.mpr ⟨by decide, trimmed figures⟩
      have minus : ('-' :: text).countP Char.isDigit = text.length := by
        rw [List.countP_cons_of_neg (by decide), countP_figures figures]
      simp only [Number.readInteger, Text.trimWhere_of_none around, Number.splitSign,
        Number.scanDigits_of_figures figures fun _ => filled, List.length_map, minus,
        List.isEmpty_nil, if_true]
      rfl

end IsDecimal

end Decimal

section Walks

/-- Where a key leads from a value. A decimal form names a place in a list, counted from its end
where it is below zero. -/
inductive Leads : Value → List Char → Value → Prop where
  | member {members : Members} {key : List Char} {v : Value} :
      Entries.find? (Codes.ofChars key) members = some v → Leads (.object members) key v
  | absent {members : Members} {key : List Char} :
      Entries.find? (Codes.ofChars key) members = none → Leads (.object members) key .null
  | item {items : List Value} {key : List Char} {i : Int} {v : Value} : IsDecimal key i →
      -items.length ≤ i → i < items.length →
      items[(if 0 ≤ i then i else i + items.length).toNat]? = some v → Leads (.array items) key v
  | outside {items : List Value} {key : List Char} {i : Int} : IsDecimal key i →
      ¬(-items.length ≤ i ∧ i < items.length) → Leads (.array items) key .null
  | noIndex {items : List Value} {key : List Char} : ¬IsIndex key → Leads (.array items) key .null
  | scalar {v : Value} {key : List Char} : v.kind ≠ .mapping → v.kind ≠ .sequence →
      Leads v key .null

inductive Walks : Value → List Step → Value → Prop where
  | done (v : Value) : Walks v [] v
  | step {v w u : Value} {s : Step} {rest : List Step} : Leads v s.key w → Walks w rest u →
      Walks v (s :: rest) u

/-- Every key that is used on a list has the property. -/
def OnLists (p : List Char → Prop) : Value → List Step → Prop
  | _, [] => True
  | v, s :: rest => (v.kind = .sequence → p s.key) ∧ ∀ w, Leads v s.key w → OnLists p w rest

/-- Keys that are the decimal form of an integer, or no index of any form. -/
def Settled (key : List Char) : Prop :=
  (∃ i, IsDecimal key i) ∨ ¬IsIndex key

variable {v w u : Value} {key : List Char} {steps : List Step}

theorem Leads.unique (h : Leads v key w) (h' : Leads v key u) : w = u := by
  cases h with
  | member found =>
      cases h' with
      | member found' => exact Option.some.inj (found.symm.trans found')
      | absent missing => cases found.symm.trans missing
      | scalar mapping => exact absurd rfl mapping
  | absent missing =>
      cases h' with
      | member found => cases missing.symm.trans found
      | absent => rfl
      | scalar => rfl
  | item decimal low high there =>
      cases h' with
      | item decimal' _ _ there' =>
          cases decimal.unique decimal'
          exact Option.some.inj (there.symm.trans there')
      | outside decimal' outside =>
          cases decimal.unique decimal'
          exact absurd ⟨low, high⟩ outside
      | noIndex other => exact absurd decimal.isIndex other
      | scalar _ sequence => exact absurd rfl sequence
  | outside decimal outside =>
      cases h' with
      | item decimal' low high =>
          cases decimal.unique decimal'
          exact absurd ⟨low, high⟩ outside
      | _ => rfl
  | noIndex other =>
      cases h' with
      | item decimal => exact absurd decimal.isIndex other
      | _ => rfl
  | scalar mapping sequence =>
      cases h' with
      | member => exact absurd rfl mapping
      | item => exact absurd rfl sequence
      | _ => rfl

theorem exists_leads (settled : v.kind = .sequence → Settled key) : ∃ w, Leads v key w := by
  cases v with
  | object members =>
      cases found : Entries.find? (Codes.ofChars key) members with
      | none => exact ⟨_, .absent found⟩
      | some w => exact ⟨w, .member found⟩
  | array items =>
      rcases settled rfl with ⟨i, decimal⟩ | other
      · by_cases inside : -items.length ≤ i ∧ i < items.length
        · have bound : (if 0 ≤ i then i else i + items.length).toNat < items.length := by
            split <;> omega
          exact ⟨_, .item decimal inside.1 inside.2 (List.getElem?_eq_getElem bound)⟩
        · exact ⟨_, .outside decimal inside⟩
      · exact ⟨_, .noIndex other⟩
  | _ => exact ⟨_, .scalar nofun nofun⟩

theorem Walks.unique (h : Walks v steps w) (h' : Walks v steps u) : w = u := by
  induction h with
  | done v =>
      cases h'
      rfl
  | step first _ ih =>
      cases h' with
      | step first' behind =>
          cases first.unique first'
          exact ih behind

theorem exists_walk (settled : OnLists Settled v steps) : ∃ w, Walks v steps w := by
  induction steps generalizing v with
  | nil => exact ⟨v, .done v⟩
  | cons s rest ih =>
      obtain ⟨here, onwards⟩ := settled
      obtain ⟨w, first⟩ := exists_leads here
      obtain ⟨u, behind⟩ := ih (onwards w first)
      exact ⟨u, .step first behind⟩

theorem onLists_cons {p : List Char → Prop} {s : Step} (first : Leads v s.key w) :
    OnLists p v (s :: steps) ↔ (v.kind = .sequence → p s.key) ∧ OnLists p w steps :=
  and_congr_right fun _ =>
    ⟨fun onwards => onwards w first, fun behind _ other => other.unique first ▸ behind⟩

theorem itemAt_of_inside {items : List Value} {i : Int} (low : -items.length ≤ i)
    (there : items[(if 0 ≤ i then i else i + items.length).toNat]? = some v) :
    itemAt items i = v := by
  unfold itemAt
  split at there
  · rename_i natural
    rw [if_pos natural, there, Option.getD_some]
  · rename_i negative
    rw [if_neg negative, if_pos low, there, Option.getD_some]

theorem itemAt_of_outside {items : List Value} {i : Int}
    (outside : ¬(-items.length ≤ i ∧ i < items.length)) : itemAt items i = .null := by
  unfold itemAt
  split
  · have beyond : items.length ≤ i.toNat := by omega
    rw [List.getElem?_eq_none beyond, Option.getD_none]
  · rw [if_neg (by omega)]

theorem into_of_leads (h : Leads v key w) (short : v.kind = .sequence → ¬Overlong key) :
    Step.into v key = .ok w := by
  have read {i : Int} (decimal : IsDecimal key i) (short : ¬Overlong key) :
      isIndexKey key = true ∧ Number.readInteger key = .ok i := by
    refine ⟨isIndexKey_iff.mpr decimal.isIndex, ?_⟩
    rw [decimal.readInteger_eq, if_neg fun digits => short ⟨⟨i, decimal⟩, digits⟩]
  cases h with
  | member found => rw [Step.into, found, Option.getD_some]
  | absent missing => rw [Step.into, missing, Option.getD_none]
  | item decimal low _ there =>
      obtain ⟨index, place⟩ := read decimal (short rfl)
      rw [Step.into, if_pos index, place]
      exact congrArg Except.ok (itemAt_of_inside low there)
  | outside decimal outside =>
      obtain ⟨index, place⟩ := read decimal (short rfl)
      rw [Step.into, if_pos index, place]
      exact congrArg Except.ok (itemAt_of_outside outside)
  | noIndex other => rw [Step.into, if_neg fun index => other (isIndexKey_iff.mp index)]
  | scalar mapping sequence =>
      cases v with
      | object => exact absurd rfl mapping
      | array => exact absurd rfl sequence
      | _ => rfl

theorem into_of_overlong (items : List Value) (h : Overlong key) :
    Step.into (.array items) key =
      .error (.integer (.tooLong (key.countP Char.isDigit)) key) := by
  obtain ⟨⟨i, decimal⟩, digits⟩ := h
  rw [Step.into, if_pos (isIndexKey_iff.mpr decimal.isIndex), decimal.readInteger_eq, if_pos digits]

theorem follow_of_walks (h : Walks v steps w) :
    (OnLists (¬Overlong ·) v steps ∧ Path.follow v steps = .ok w) ∨
      (¬OnLists (¬Overlong ·) v steps ∧ ∃ s ∈ steps, Overlong s.key ∧
        Path.follow v steps = .error (.integer (.tooLong (s.key.countP Char.isDigit)) s.key)) := by
  induction h with
  | done v => exact .inl ⟨trivial, rfl⟩
  | @step v w u s rest first _ ih =>
      have unfolded : Path.follow v (s :: rest) =
          (Step.into v s.key).bind fun w => Path.follow w rest := by
        rw [Path.follow, List.foldlM_cons]
        rfl
      by_cases long : v.kind = .sequence ∧ Overlong s.key
      · obtain ⟨sequence, overlong⟩ := long
        obtain ⟨items, rfl⟩ : ∃ items, v = .array items := by
          cases v with
          | array items => exact ⟨items, rfl⟩
          | _ => cases sequence
        refine .inr ⟨fun all => all.1 rfl overlong, s, List.mem_cons_self, overlong, ?_⟩
        rw [unfolded, into_of_overlong items overlong]
        rfl
      · have short : v.kind = .sequence → ¬Overlong s.key :=
          fun sequence overlong => long ⟨sequence, overlong⟩
        rw [unfolded, into_of_leads first short, onLists_cons first]
        rcases ih with ⟨others, told⟩ | ⟨others, s', member, overlong, told⟩
        · exact .inl ⟨⟨short, others⟩, told⟩
        · exact .inr ⟨fun all => others all.2, s', List.mem_cons_of_mem s member, overlong, told⟩

end Walks

namespace Path

def start (p : Path) (members : Members) : Value :=
  (Entries.find? (Codes.ofChars p.base) members).getD .null

/-- Whether the last arrow of a path asks for a text of the value that the path leads to. -/
def asksText (p : Path) (v : Value) : Prop :=
  p.steps.getLast?.map Step.arrow = some .text ∧ v.kind ≠ .null ∧ v.kind ≠ .string

instance (p : Path) (v : Value) : Decidable (p.asksText v) :=
  inferInstanceAs (Decidable (_ ∧ _ ∧ _))

theorem present_eq (p : Path) (v : Value) :
    present p.steps v = if p.asksText v then .string v.text else v := by
  unfold present
  by_cases asks : p.asksText v
  · rw [if_pos asks]
    obtain ⟨last, no_null, no_string⟩ := asks
    obtain ⟨⟨arrow, key⟩, told, rfl⟩ := Option.map_eq_some_iff.mp last
    rw [told]
    cases v with
    | null => exact absurd rfl no_null
    | string s => exact absurd rfl no_string
    | _ => rfl
  · rw [if_neg asks]
    split
    · rename_i last
      have arrow : p.steps.getLast?.map Step.arrow = some .text := by rw [last]; rfl
      cases v with
      | null => rfl
      | string s => rfl
      | _ => exact absurd ⟨arrow, nofun, nofun⟩ asks
    · rfl

theorem resolveColumn_eq {p : Path} (plain : p.Plain) (members : Members) :
    resolveColumn members (String.ofList p.written) =
      (follow (p.start members) p.steps).map (present p.steps) := by
  rw [resolveColumn, String.toList_ofList, read_written plain]
  rfl

end Path

/-- A column that spells a path is resolved to the one value that the steps of the path lead to from
its base, and to the text of this value where the last arrow asks for it. The keys are decimal forms
or no indices where they are used on lists; a place with too many digits there is the one thing that
fails. -/
theorem resolveColumn_written {p : Path} (plain : p.Plain) (members : Members)
    (settled : OnLists Settled (p.start members) p.steps) :
    ∃ v, (∀ w, Walks (p.start members) p.steps w ↔ w = v) ∧
      (OnLists (¬Overlong ·) (p.start members) p.steps →
        resolveColumn members (String.ofList p.written) =
          .ok (if p.asksText v then .string v.text else v)) ∧
      (¬OnLists (¬Overlong ·) (p.start members) p.steps → ∃ s ∈ p.steps, Overlong s.key ∧
        resolveColumn members (String.ofList p.written) =
          .error (.integer (.tooLong (s.key.countP Char.isDigit)) s.key)) := by
  obtain ⟨v, walks⟩ := exists_walk settled
  have resolved := Path.resolveColumn_eq plain members
  refine ⟨v, fun w => ⟨fun other => other.unique walks, fun h => h ▸ walks⟩, ?_, ?_⟩
  · intro short
    rcases follow_of_walks walks with ⟨-, told⟩ | ⟨long, -⟩
    · rw [resolved, told, Except.map, Path.present_eq]
    · exact absurd short long
  · intro long
    rcases follow_of_walks walks with ⟨short, -⟩ | ⟨-, s, member, overlong, told⟩
    · exact absurd short long
    · exact ⟨s, member, overlong, by rw [resolved, told, Except.map]⟩

def nestedPlace : Path :=
  ⟨"meta-".toList, [⟨.value, "a-".toList⟩, ⟨.value, "-2".toList⟩, ⟨.text, "0".toList⟩]⟩

def nestedRow : Members :=
  [("meta-", .object [("a-", .array [.array [.ofInt 7, .bool true], .string "x"])])]

theorem resolveColumn_written_of_nestedPlace :
    nestedPlace.Plain ∧ OnLists Settled (nestedPlace.start nestedRow) nestedPlace.steps ∧
      Walks (nestedPlace.start nestedRow) nestedPlace.steps (.ofInt 7) ∧
      resolveColumn nestedRow "meta-->a-->-2->>0" = .ok (.string "7") := by
  have plain : nestedPlace.Plain := by
    refine ⟨show ¬_ <:+: _ by decide, ?_⟩
    intro s hs
    simp only [nestedPlace, List.mem_cons, List.not_mem_nil, or_false] at hs
    rcases hs with rfl | rfl | rfl
    all_goals exact ⟨show ¬_ <:+: _ by decide, by decide⟩
  have minus : (toString (-2 : Int)).toList = "-2".toList := by decide
  have back : IsDecimal "-2".toList (-2) := minus ▸ isDecimal_toString (-2)
  have front : IsDecimal "0".toList 0 := isDecimal_toString 0
  have member : Leads (nestedPlace.start nestedRow) "a-".toList
      (.array [.array [.ofInt 7, .bool true], .string "x"]) := .member rfl
  have second : Leads (.array [.array [.ofInt 7, .bool true], .string "x"]) "-2".toList
      (.array [.ofInt 7, .bool true]) := .item back (by decide) (by decide) rfl
  have third : Leads (.array [.ofInt 7, .bool true]) "0".toList (.ofInt 7) :=
    .item front (by decide) (by decide) rfl
  have along {q : List Char → Prop} (there : q "-2".toList) (here : q "0".toList) :
      OnLists q (nestedPlace.start nestedRow) nestedPlace.steps :=
    (onLists_cons member).mpr ⟨nofun, (onLists_cons second).mpr ⟨fun _ => there,
      (onLists_cons third).mpr ⟨fun _ => here, trivial⟩⟩⟩
  have settled := along (q := Settled) (.inl ⟨_, back⟩) (.inl ⟨_, front⟩)
  have short := along (q := (¬Overlong ·)) (fun long => absurd long.digits (by decide))
    fun long => absurd long.digits (by decide)
  have walks : Walks (nestedPlace.start nestedRow) nestedPlace.steps (.ofInt 7) :=
    .step member (.step second (.step third (.done _)))
  obtain ⟨v, only, told, -⟩ := resolveColumn_written plain nestedRow settled
  obtain rfl := (only _).mp walks
  exact ⟨plain, settled, walks, told short⟩

def farPlace : List Char :=
  '1' :: List.replicate 4300 '0'

/-- The place is a decimal form and outside of the list, so that the path leads to null. It is not
resolved: the place has too many digits. -/
theorem farPlace_fails :
    let p : Path := ⟨['a'], [⟨.value, farPlace⟩]⟩
    let row : Members := [("a", .array [])]
    p.Plain ∧ OnLists Settled (p.start row) p.steps ∧ Walks (p.start row) p.steps .null ∧
      resolveColumn row (String.ofList p.written) =
        .error (.integer (.tooLong 4301) farPlace) := by
  intro p row
  have figures : ∀ c ∈ farPlace, IsFigure c := by
    intro c hc
    rcases List.mem_cons.mp hc with rfl | zero
    · exact ⟨by decide, by decide⟩
    · rw [List.eq_of_mem_replicate zero]
      exact ⟨by decide, by decide⟩
  have decimal : IsDecimal farPlace _ := .natural (List.cons_ne_nil _ _) figures
  have digits : farPlace.countP Char.isDigit = 4301 := by
    rw [countP_figures figures, farPlace, List.length_cons, List.length_replicate]
  have plain : p.Plain := by
    refine ⟨show ¬_ <:+: _ by decide, fun s hs => ?_⟩
    obtain rfl := List.mem_singleton.mp hs
    refine ⟨fun arrow => ?_, nofun⟩
    exact absurd (figures '-' (arrow.subset (by simp))).1 (by decide)
  have leads : Leads (p.start row) farPlace .null :=
    .outside decimal fun inside => absurd inside.2 (Int.not_lt.mpr (Int.natCast_nonneg _))
  have walks : Walks (p.start row) p.steps .null := .step leads (.done _)
  have settled : OnLists Settled (p.start row) p.steps :=
    (onLists_cons leads).mpr ⟨fun _ => .inl ⟨_, decimal⟩, trivial⟩
  refine ⟨plain, settled, walks, ?_⟩
  rcases follow_of_walks walks with ⟨short, -⟩ | ⟨-, s, member, -, told⟩
  · have long : Overlong farPlace := ⟨⟨_, decimal⟩, by rw [digits]; decide⟩
    exact absurd long (((onLists_cons leads).mp short).1 rfl)
  · obtain rfl := List.mem_singleton.mp member
    rw [Path.resolveColumn_eq plain, told, digits]
    rfl

end TableServer
