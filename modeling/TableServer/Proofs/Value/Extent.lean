import TableServer.Proofs.Text.Parts
import TableServer.Proofs.Value.Reader
import TableServer.Proofs.Value.Tokens

/-! The extent of values. A value is read from a balanced text, and it is read from it where less
of the text follows as well, so that blanks around a value do not matter. Arrays and objects end at
the bracket that closes the one they start with. -/
namespace TableServer.Value

open Grammar

/-- What a reader gives, without the proof that the text behind is shorter. -/
def loosely {α : Type} {text : Codes} (read : Except ReadFault (α × Shorter text)) :
    Except ReadFault (α × Codes) :=
  read.map fun p => (p.1, p.2.1)

def nameAt (text : Codes) : Except ReadFault (Codes × Codes) :=
  loosely (readName text)

def valueAt (text : Codes) : Except ReadFault (Value × Codes) :=
  loosely (readValue text)

def itemsAt (text : Codes) : Except ReadFault (List Value × Codes) :=
  loosely (readItems text)

def membersAt (text : Codes) : Except ReadFault (Members × Codes) :=
  loosely (readMembers text)

theorem length_of_loosely {α : Type} {text rest : Codes} {a : α}
    {read : Except ReadFault (α × Shorter text)} (h : loosely read = .ok (a, rest)) :
    rest.length < text.length := by
  obtain ⟨p, -, he⟩ := map_eq_ok h
  cases he
  exact p.2.2

theorem loosely_ok {α : Type} {text : Codes} (a : α) (rest : Shorter text) :
    loosely (.ok (a, rest)) = .ok (a, rest.1) :=
  rfl

theorem loosely_error {α : Type} {text : Codes} (fault : ReadFault) :
    loosely (.error fault : Except ReadFault (α × Shorter text)) = .error fault :=
  rfl

/-- What stands behind an opening bracket and blanks: its closing bracket, or what is read before
this one. -/
def enclosed {α : Type} (closer : Char) (empty : α)
    (inner : Codes → Except ReadFault (α × Codes)) :
    Codes → Except ReadFault (α × Codes)
  | c :: tail => if c = closer then .ok (empty, tail) else inner (c :: tail)
  | [] => inner []

/-- What stands behind an item and blanks: the closing bracket, or a comma and further items. -/
def listed {α : Type} (closer : Char) (last : α)
    (more : Codes → Except ReadFault (α × Codes)) :
    Codes → Except ReadFault (α × Codes)
  | c :: tail =>
      if c = closer then .ok (last, tail)
      else if c = ',' then more (skip tail)
      else .error (.malformed .expectedComma (c :: tail))
  | [] => .error (.malformed .expectedComma [])

section Shapes

variable {α : Type} {closer : Char} {empty last : α} {text : Codes}
  {inner : Codes → Except ReadFault (α × Codes)}

theorem enclosed_of_other (filled : ∀ tail, text ≠ .char closer :: tail) :
    enclosed closer empty inner text = inner text := by
  cases text with
  | nil => rfl
  | cons c tail =>
      have other : c ≠ .char closer := fun hc => filled tail (by rw [hc])
      exact if_neg other

theorem listed_of_other (unclosed : ∀ tail, text ≠ .char closer :: tail)
    (ended : ∀ tail, text ≠ .char ',' :: tail) :
    listed closer last inner text = .error (.malformed .expectedComma text) := by
  cases text with
  | nil => rfl
  | cons c tail =>
      have bracket : c ≠ .char closer := fun hc => unclosed tail (by rw [hc])
      have comma : c ≠ .char ',' := fun hc => ended tail (by rw [hc])
      rw [listed, if_neg bracket, if_neg comma]

end Shapes

section Equations

theorem nameAt_eq (rest : Codes) :
    nameAt ('"' :: rest) = (readString ('"' :: rest) rest).bind fun p =>
      match skip p.2 with
      | ':' :: after => .ok (p.1, skip after)
      | other => .error (.malformed .expectedColon other) := by
  rw [nameAt, readName, if_pos rfl]
  split
  · rename_i read
    conv_rhs => rw [read]
    rfl
  · rename_i read
    conv_rhs => rw [read, Except.bind]
    dsimp only
    split
    · rename_i colon
      conv_rhs => rw [colon]
      rfl
    · rename_i other
      split
      · rename_i colon
        exact absurd colon (other _)
      · rfl

theorem nameAt_of_other {c : CodePoint} (quote : c ≠ '"') (rest : Codes) :
    nameAt (c :: rest) = .error (.malformed .expectedName (c :: rest)) := by
  rw [nameAt, readName, if_neg quote]
  rfl

theorem valueAt_string (rest : Codes) :
    valueAt ('"' :: rest) = (readString ('"' :: rest) rest).map fun p =>
      (.string (p.1), p.2) := by
  rw [valueAt, readValue]
  split
  · rename_i read
    conv_rhs => rw [read]
    rfl
  · rename_i read
    conv_rhs => rw [read]
    rfl

theorem valueAt_array (rest : Codes) :
    valueAt ('[' :: rest) = enclosed ']' (.array [])
      (fun inner => (itemsAt inner).map fun p => (.array p.1, p.2)) (skip rest) := by
  rw [valueAt, readValue]
  split
  · rename_i empty
    conv_rhs => rw [empty, enclosed, if_pos rfl]
    rfl
  · rename_i filled
    rw [enclosed_of_other filled, itemsAt]
    cases readItems (skip rest) <;> rfl

theorem valueAt_object (rest : Codes) :
    valueAt ('\x7b' :: rest) = enclosed '\x7d' (.object [])
      (fun inner => (membersAt inner).map fun p => (.ofPairs p.1, p.2)) (skip rest) := by
  rw [valueAt, readValue]
  split
  · rename_i empty
    conv_rhs => rw [empty, enclosed, if_pos rfl]
    rfl
  · rename_i filled
    rw [enclosed_of_other filled, membersAt]
    cases readMembers (skip rest) <;> rfl

theorem itemsAt_eq (text : Codes) :
    itemsAt text = (valueAt text).bind fun p =>
      listed ']' [p.1] (fun more => (itemsAt more).map fun q => (p.1 :: q.1, q.2)) (skip p.2) := by
  rw [itemsAt, readItems, valueAt]
  cases readValue text with
  | error fault => rfl
  | ok p =>
      rw [loosely_ok, Except.bind]
      dsimp only
      split
      · rename_i closed
        conv_rhs => rw [closed, listed, if_pos rfl]
        rfl
      · rename_i comma
        conv_rhs => rw [comma, listed, if_neg (by decide), if_pos rfl, itemsAt]
        cases readItems (skip _) <;> rfl
      · rename_i bracket comma
        rw [listed_of_other bracket comma]
        rfl

theorem membersAt_eq (text : Codes) :
    membersAt text = (nameAt text).bind fun name => (valueAt name.2).bind fun p =>
      listed '\x7d' [(name.1, p.1)]
        (fun more => (membersAt more).map fun q => ((name.1, p.1) :: q.1, q.2)) (skip p.2) := by
  rw [membersAt, readMembers, nameAt]
  cases readName text with
  | error fault => rfl
  | ok name =>
      rw [loosely_ok, Except.bind, valueAt]
      dsimp only
      cases readValue name.2.1 with
      | error fault => rfl
      | ok p =>
          rw [loosely_ok, Except.bind]
          dsimp only
          split
          · rename_i closed
            conv_rhs => rw [closed, listed, if_pos rfl]
            rfl
          · rename_i comma
            conv_rhs => rw [comma, listed, if_neg (by decide), if_pos rfl, membersAt]
            cases readMembers (skip _) <;> rfl
          · rename_i brace comma
            rw [listed_of_other brace comma]
            rfl

theorem valueAt_scalar {c : CodePoint} (quote : c ≠ '"') (bracket : c ≠ '[') (brace : c ≠ '\x7b')
    (rest : Codes) : valueAt (c :: rest) = loosely (readScalar (c :: rest)) := by
  rw [valueAt, readValue]
  all_goals
    rintro _ spelt
    cases spelt
    contradiction

end Equations

section Blanks

theorem isBlank_of_isSpace {c : CodePoint} (h : isSpace c = true) :
    Text.isBlank c.shown = true := by
  simp only [isSpace, Bool.or_eq_true, decide_eq_true_eq] at h
  rcases h with ((rfl | rfl) | rfl) | rfl <;> decide

theorem neutral_of_isSpace {blanks : Codes} (blank : ∀ c ∈ blanks, isSpace c = true) :
    Neutral true blanks.shown := by
  refine .of_blank fun c hc => ?_
  obtain ⟨d, hd, rfl⟩ := List.mem_map.mp hc
  exact isBlank_of_isSpace (blank d hd)

theorem exists_blanks (text : Codes) : ∃ blanks, text = blanks ++ skip text ∧
    (∀ c ∈ blanks, isSpace c = true) ∧ Neutral true blanks.shown ∧
      ∀ more, skip (blanks ++ more) = skip more := by
  have blank : ∀ c ∈ text.takeWhile isSpace, isSpace c = true :=
    fun c hc => List.mem_takeWhile_imp hc
  exact ⟨text.takeWhile isSpace, List.takeWhile_append_dropWhile.symm, blank,
    neutral_of_isSpace blank, fun more => List.dropWhile_append_of_pos blank⟩

theorem skip_of_skipped {text used rest : Codes} (h : skip text = used ++ rest)
    (filled : used ≠ []) (more : Codes) : skip (used ++ more) = used ++ more := by
  obtain ⟨c, used, rfl⟩ := List.exists_cons_of_ne_nil filled
  have shown := List.head?_dropWhile_not isSpace text
  rw [← skip, h] at shown
  exact skip_of_shown (by simpa using shown) (used ++ more)

end Blanks

def Wrapped (v : Value) (text : Codes) : Prop :=
  match v with
  | .array _ => ∃ inner : Codes, Neutral true inner.shown ∧ text = .char '[' :: (inner ++ [.char ']'])
  | .object _ =>
      ∃ inner : Codes, Neutral true inner.shown ∧ text = .char '\x7b' :: (inner ++ [.char '\x7d'])
  | _ => True

/-- A value is read from a balanced text in front of `rest`, and from the same text in front of less
than `rest`. -/
def HasExtent (v : Value) (text rest : Codes) : Prop :=
  ∃ used, text = used ++ rest ∧ Neutral true used.shown ∧ Wrapped v used ∧
    ∀ less, less <+: rest → valueAt (used ++ less) = .ok (v, less)

/-- The inside of brackets is read from a balanced text and the closing bracket behind it, whatever
part of `rest` follows. -/
def HasInside {α : Type} (read : Codes → Except ReadFault (α × Codes)) (closer : Char)
    (a : α) (text rest : Codes) : Prop :=
  ∃ inner, text = inner ++ .char closer :: rest ∧ inner ≠ [] ∧ Neutral true inner.shown ∧
    ∀ less, less <+: rest → read (inner ++ .char closer :: less) = .ok (a, less)

section Extents

variable {α β : Type} {read more : Codes → Except ReadFault (α × Codes)} {closer : Char}
  {a last : α} {text rest : Codes}

theorem HasInside.map {f : α → β} (h : HasInside read closer a text rest) :
    HasInside (fun inner => (read inner).map fun p => (f p.1, p.2)) closer (f a) text rest := by
  obtain ⟨inner, spelt, filled, balanced, kept⟩ := h
  refine ⟨inner, spelt, filled, balanced, fun less shorter => ?_⟩
  dsimp only
  rw [kept less shorter, Except.map]

/-- A list is read item by item: what stands behind the item that `used` spells is read as `listed`
says. -/
theorem hasInside_listed {used behind : Codes} (filled : used ≠ [])
    (balanced : Neutral true used.shown) (shown : isSpace closer = false)
    (step : ∀ less, less <+: behind → read (used ++ less) = listed closer last more (skip less))
    (found : listed closer last more (skip behind) = .ok (a, rest))
    (others : ∀ tail, (skip tail).length < behind.length → more (skip tail) = .ok (a, rest) →
      HasInside more closer a (skip tail) rest) :
    HasInside read closer a (used ++ behind) rest := by
  obtain ⟨blanks, spelt, -, plain, skipped⟩ := exists_blanks behind
  cases hs : skip behind with
  | nil => simp [hs, listed] at found
  | cons c tail =>
      rw [hs, listed] at found
      split at found
      · rename_i closing
        cases found
        subst closing
        refine ⟨used ++ blanks, by rw [List.append_assoc, ← hs, ← spelt], by simp [filled],
          (used.shown_append blanks).symm ▸ balanced.append plain, fun less shorter => ?_⟩
        have kept := step (blanks ++ .char closer :: less) (by
          rw [spelt, hs]
          exact (List.prefix_append_right_inj _).mpr ((List.prefix_cons_inj _).mpr shorter))
        rw [List.append_assoc, kept, skipped, skip_of_shown shown, listed, if_pos rfl]
      · rename_i bracket
        split at found
        · rename_i comma
          subst comma
          obtain ⟨blanks', spelt', -, plain', skipped'⟩ := exists_blanks tail
          have short : (skip tail).length < behind.length := by
            have shorter := length_skip_le tail
            rw [spelt, hs, List.length_append, List.length_cons]
            omega
          obtain ⟨inner, rest_eq, some, balanced', kept'⟩ := others tail short found
          refine ⟨used ++ (blanks ++ .char ',' :: (blanks' ++ inner)), ?_, by simp [filled], ?_, ?_⟩
          · simp only [List.append_assoc, List.cons_append]
            rw [← rest_eq, ← spelt', ← hs, ← spelt]
          · simpa using balanced.append (plain.append (plain'.append balanced').comma)
          · intro less shorter
            have kept := step (blanks ++ .char ',' :: (blanks' ++ (inner ++ .char closer :: less))) (by
              obtain ⟨omitted, rfl⟩ := shorter
              refine ⟨omitted, ?_⟩
              rw [spelt, hs, spelt', rest_eq]
              simp)
            simp only [List.append_assoc, List.cons_append]
            rw [kept, skipped, skip_of_shown (by decide), listed, if_neg bracket, if_pos rfl,
              skipped', skip_of_skipped rest_eq some, kept' less shorter]
        · cases found

/-- What is read behind an opening bracket ends at the bracket that closes this one. -/
theorem hasExtent_enclosed {opener : Char} {empty v : Value} {f : α → Value}
    (pair : closerOf? opener = some closer) (shown : isSpace closer = false)
    (step : ∀ behind, valueAt (.char opener :: behind) =
      enclosed closer empty (fun inner => (read inner).map fun p => (f p.1, p.2)) (skip behind))
    (wraps : ∀ inner : Codes, Neutral true inner.shown →
      Wrapped empty (.char opener :: (inner ++ [.char closer])) ∧
        ∀ a, Wrapped (f a) (.char opener :: (inner ++ [.char closer])))
    (h : valueAt (.char opener :: text) = .ok (v, rest))
    (inside : ∀ a rest, read (skip text) = .ok (a, rest) →
      HasInside read closer a (skip text) rest) : HasExtent v (.char opener :: text) rest := by
  obtain ⟨blanks, spelt, -, plain, skipped⟩ := exists_blanks text
  rw [step] at h
  by_cases shut : (skip text).head? = some (.char closer)
  · obtain ⟨tail, hs⟩ := List.head?_eq_some_iff.mp shut
    rw [hs, enclosed, if_pos rfl] at h
    cases h
    refine ⟨.char opener :: (blanks ++ [.char closer]), ?_, ?_, (wraps blanks plain).1,
      fun less _ => ?_⟩
    · rw [spelt, hs]
      simp
    · simpa using Neutral.bracketed pair plain .nil
    · rw [List.cons_append, List.append_assoc, List.singleton_append, step, skipped,
        skip_of_shown shown, enclosed, if_pos rfl]
  · have other : ∀ tail, skip text ≠ .char closer :: tail := fun tail hs => shut (by simp [hs])
    rw [enclosed_of_other other] at h
    obtain ⟨⟨a, tail⟩, found, he⟩ := map_eq_ok h
    cases he
    obtain ⟨inner, rest_eq, some, balanced, kept⟩ := inside a tail found
    have whole : Neutral true (Codes.shown (blanks ++ inner)) :=
      (blanks.shown_append inner).symm ▸ plain.append balanced
    refine ⟨.char opener :: (blanks ++ inner ++ [.char closer]), ?_, ?_, (wraps _ whole).2 a,
      fun less shorter => ?_⟩
    · rw [spelt, rest_eq]
      simp
    · simpa using Neutral.bracketed pair whole .nil
    · rw [List.cons_append, List.append_assoc, List.append_assoc, List.singleton_append, step,
        skipped, skip_of_skipped rest_eq some, enclosed_of_other, kept less shorter]
      · rfl
      · intro tail front
        obtain ⟨c, inner, rfl⟩ := List.exists_cons_of_ne_nil some
        rw [(List.cons_eq_cons.mp front).1] at rest_eq
        exact other _ rest_eq

theorem hasExtent_string {v : Value} (h : valueAt (.char '"' :: text) = .ok (v, rest)) :
    HasExtent v (.char '"' :: text) rest := by
  rw [valueAt_string] at h
  obtain ⟨⟨cs, tail⟩, found, he⟩ := map_eq_ok h
  cases he
  obtain ⟨inner, rfl, hidden, kept⟩ := readString_extent found
  refine ⟨.char '"' :: (inner ++ [.char '"']), by simp, ?_, trivial, fun less _ => ?_⟩
  · simpa using Neutral.quoted hidden .nil
  rw [List.cons_append, List.append_assoc, List.singleton_append, valueAt_string, kept]
  rfl

theorem readScalar_eq (text : Codes) :
    loosely (readScalar text) = match readWord? text words with
      | some word => .ok word
      | none => (readNumber text).map fun p => (.number p.1, p.2) := by
  unfold readScalar
  split
  · rename_i word
    conv_rhs => rw [word]
    rfl
  · rename_i missing
    conv_rhs => rw [missing]
    dsimp only
    split
    all_goals
      rename_i read
      conv_rhs => rw [read]
      rfl

theorem takesToken_readScalar {v : Value} (h : loosely (readScalar text) = .ok (v, rest)) :
    TakesToken (fun less => loosely (readScalar less)) (fun less => .ok (v, less)) text rest := by
  rw [readScalar_eq] at h
  split at h
  · rename_i word
    cases h
    obtain ⟨used, rfl, plain, kept⟩ := takesToken_readWord? (by decide) word
    refine ⟨used, rfl, plain, fun less shorter => ?_⟩
    have still_found := kept less shorter
    dsimp only at still_found ⊢
    rw [readScalar_eq, still_found]
  · rename_i missing
    obtain ⟨⟨n, tail⟩, number, he⟩ := map_eq_ok h
    cases he
    obtain ⟨used, rfl, plain, kept⟩ := takesToken_readNumber number
    refine ⟨used, rfl, plain, fun less shorter => ?_⟩
    have ahead : used ++ less <+: used ++ tail := (List.prefix_append_right_inj used).mpr shorter
    have still_missing := readWord?_eq_none missing ahead
    dsimp only
    rw [readScalar_eq, still_missing]
    dsimp only
    rw [kept less shorter]
    rfl

theorem wrapped_of_readScalar {v : Value} (h : loosely (readScalar text) = .ok (v, rest))
    (used : Codes) : Wrapped v used := by
  rw [readScalar_eq] at h
  split at h
  · rename_i word
    cases h
    obtain ⟨w, member⟩ := mem_of_readWord? word
    simp only [words, List.mem_cons, Prod.mk.injEq, List.not_mem_nil, or_false] at member
    rcases member with ⟨-, rfl⟩ | ⟨-, rfl⟩ | ⟨-, rfl⟩ | ⟨-, rfl⟩ | ⟨-, rfl⟩ | ⟨-, rfl⟩ <;> trivial
  · obtain ⟨p, -, he⟩ := map_eq_ok h
    cases he
    trivial

theorem filled_of_valueAt {v : Value} {used : Codes}
    (h : valueAt (used ++ rest) = .ok (v, rest)) : used ≠ [] := by
  rintro rfl
  exact absurd (length_of_loosely h) (Nat.lt_irrefl _)

theorem hasExtent_scalar {v : Value} {c : CodePoint} (quote : c ≠ '"') (bracket : c ≠ '[')
    (brace : c ≠ '\x7b') (h : valueAt (c :: text) = .ok (v, rest)) :
    HasExtent v (c :: text) rest := by
  have scalar := h
  rw [valueAt_scalar quote bracket brace] at scalar
  obtain ⟨used, spelt, plain, kept⟩ := takesToken_readScalar scalar
  refine ⟨used, spelt, .of_plain plain, wrapped_of_readScalar scalar used, fun less shorter => ?_⟩
  rw [spelt] at h
  obtain ⟨d, used, rfl⟩ := List.exists_cons_of_ne_nil (filled_of_valueAt h)
  obtain rfl : c = d := (List.cons_eq_cons.mp spelt).1
  exact (valueAt_scalar quote bracket brace (used ++ less)).trans (kept less shorter)

theorem nameAt_extent {name : Codes} (h : nameAt text = .ok (name, rest)) :
    ∃ used after, text = used ++ after ∧ rest = skip after ∧ used ≠ [] ∧ Neutral true used.shown ∧
      ∀ more, nameAt (used ++ more) = .ok (name, skip more) := by
  cases text with
  | nil => cases h
  | cons c text =>
      by_cases quote : c = .char '"'
      · subst quote
        rw [nameAt_eq] at h
        obtain ⟨⟨cs, tail⟩, found, behind⟩ := Outcome.bind_eq_ok_iff.mp h
        obtain ⟨inner, rfl, hidden, kept⟩ := readString_extent found
        obtain ⟨blanks, spelt, -, plain, skipped⟩ := exists_blanks tail
        split at behind
        · rename_i after colon
          cases behind
          have mark : Neutral true [':'] := .of_plain rfl
          refine ⟨.char '"' :: (inner ++ .char '"' :: (blanks ++ [.char ':'])), after, ?_, rfl,
            by simp, ?_, fun more => ?_⟩
          · simp only [List.cons_append, List.append_assoc, List.nil_append]
            rw [← colon, ← spelt]
          · simpa using Neutral.quoted hidden (plain.append mark)
          · simp only [List.cons_append, List.append_assoc, List.nil_append]
            rw [nameAt_eq, kept, Except.bind]
            dsimp only
            rw [skipped, skip_of_shown (by decide)]
            rfl
        · cases behind
      · rw [nameAt_of_other quote] at h
        cases h

end Extents

theorem hasExtent (text : Codes) :
    (∀ v rest, valueAt text = .ok (v, rest) → HasExtent v text rest) ∧
      (∀ items rest, itemsAt text = .ok (items, rest) → HasInside itemsAt ']' items text rest) ∧
      ∀ members rest, membersAt text = .ok (members, rest) →
        HasInside membersAt '\x7d' members text rest := by
  -- Items and members are read from the same text as their first value, which comes first here.
  induction hn : text.length using Nat.strongRecOn generalizing text with
  | _ n ih =>
      subst hn
      have value : ∀ v rest, valueAt text = .ok (v, rest) → HasExtent v text rest := by
        intro v rest h
        cases text with
        | nil => exact absurd (length_of_loosely h) (Nat.not_lt_zero _)
        | cons c inner =>
            have shorter : (skip inner).length < (c :: inner).length :=
              Nat.lt_succ_of_le (length_skip_le inner)
            by_cases quote : c = .char '"'
            · subst quote
              exact hasExtent_string h
            · by_cases bracket : c = .char '['
              · subst bracket
                refine hasExtent_enclosed rfl rfl valueAt_array (fun inner balanced => ?_) h
                  (ih _ shorter (skip inner) rfl).2.1
                exact ⟨⟨inner, balanced, rfl⟩, fun _ => ⟨inner, balanced, rfl⟩⟩
              · by_cases brace : c = .char '\x7b'
                · subst brace
                  refine hasExtent_enclosed rfl rfl valueAt_object (fun inner balanced => ?_) h
                    (ih _ shorter (skip inner) rfl).2.2
                  exact ⟨⟨inner, balanced, rfl⟩, fun _ => ⟨inner, balanced, rfl⟩⟩
                · exact hasExtent_scalar quote bracket brace h
      refine ⟨value, ?_, ?_⟩
      · intro items rest h
        rw [itemsAt_eq] at h
        obtain ⟨⟨v, behind⟩, first, found⟩ := Outcome.bind_eq_ok_iff.mp h
        obtain ⟨used, rfl, balanced, -, kept⟩ := value v behind first
        refine hasInside_listed (filled_of_valueAt first) balanced rfl ?_ found ?_
        · intro less shorter
          rw [itemsAt_eq, kept less shorter, Except.bind]
        · intro tail shorter others
          obtain ⟨⟨rest_items, last⟩, read, he⟩ := map_eq_ok others
          cases he
          refine ((ih _ ?_ (skip tail) rfl).2.1 rest_items last read).map
          rw [List.length_append]
          omega
      · intro members rest h
        rw [membersAt_eq] at h
        obtain ⟨⟨name, valueText⟩, named, h⟩ := Outcome.bind_eq_ok_iff.mp h
        obtain ⟨⟨v, behind⟩, first, found⟩ := Outcome.bind_eq_ok_iff.mp h
        obtain ⟨front, after, rfl, rfl, filled, balanced, kept_name⟩ := nameAt_extent named
        have shorter : (skip after).length < (front ++ after).length := length_of_loosely named
        obtain ⟨used, spelt, balanced', -, kept⟩ := (ih _ shorter (skip after) rfl).1 v behind first
        obtain ⟨blanks, spelt', -, plain, skipped⟩ := exists_blanks after
        have some : used ≠ [] := filled_of_valueAt (spelt ▸ first)
        have whole : front ++ after = front ++ (blanks ++ used) ++ behind := by
          rw [List.append_assoc, List.append_assoc, ← spelt, ← spelt']
        have all : Neutral true (front ++ (blanks ++ used)).shown := by
          simpa [Codes.shown] using balanced.append (plain.append balanced')
        rw [whole]
        refine hasInside_listed (by simp [filled]) all rfl ?_ found ?_
        · intro less ahead
          rw [membersAt_eq, List.append_assoc, kept_name, Except.bind, List.append_assoc]
          dsimp only
          rw [skipped, skip_of_skipped spelt some, kept less ahead, Except.bind]
        · intro tail short others
          obtain ⟨⟨rest_members, last⟩, read, he⟩ := map_eq_ok others
          cases he
          refine ((ih _ ?_ (skip tail) rfl).2.2 rest_members last read).map
          rw [whole, List.length_append]
          omega

theorem readText_eq_ok_iff {text : Codes} {v : Value} :
    readText text = .ok v ↔ ∃ rest, valueAt (skip text) = .ok (v, rest) ∧ skip rest = [] := by
  rw [readText, valueAt]
  cases readValue (skip text) with
  | error fault =>
      rw [loosely_error]
      simp
  | ok p =>
      rw [loosely_ok]
      dsimp only
      split
      · rename_i ended
        constructor
        · rintro ⟨⟩
          exact ⟨_, rfl, ended⟩
        · rintro ⟨rest, same, -⟩
          cases same
          rfl
      · rename_i extra
        constructor
        · intro told
          cases told
        · rintro ⟨rest, same, ended⟩
          cases same
          exact absurd ended extra

theorem readText_of_read {text : Codes} {v : Value} (h : read text = .ok v) :
    readText text = .ok v := by
  unfold read at h
  split at h
  · cases h
  · exact h

theorem read_trim {text : List Char} {v : Value} (h : read (.ofChars text) = .ok v)
    (container : v.kind = .sequence ∨ v.kind = .mapping) :
    Wrapped v (.ofChars (Text.trim text)) ∧ read (.ofChars (Text.trim text)) = .ok v := by
  obtain ⟨rest, value, ended⟩ := readText_eq_ok_iff.mp (readText_of_read h)
  obtain ⟨used, spelt, -, wrapped, kept⟩ := (hasExtent (skip (.ofChars text))).1 v rest value
  obtain ⟨blanks, front, blank, -, -⟩ := exists_blanks (.ofChars text)
  have behind : ∀ c ∈ rest, isSpace c = true := List.dropWhile_eq_nil_iff.mp ended
  have alone : valueAt used = .ok (v, []) := by simpa using kept [] (List.nil_prefix)
  obtain ⟨opener, closer, inner, rfl, first, last, mark, shown⟩ :
      ∃ (opener closer : Char) (inner : Codes), used = .char opener :: (inner ++ [.char closer]) ∧
        Text.isBlank opener = false ∧ Text.isBlank closer = false ∧ opener ≠ '\uFEFF' ∧
          isSpace opener = false := by
    cases v with
    | array items =>
        obtain ⟨inner, -, rfl⟩ := wrapped
        exact ⟨'[', ']', inner, rfl, by decide, by decide, by decide, rfl⟩
    | object members =>
        obtain ⟨inner, -, rfl⟩ := wrapped
        exact ⟨'\x7b', '\x7d', inner, rfl, by decide, by decide, by decide, rfl⟩
    | _ => simp [kind] at container
  rw [spelt] at front
  obtain ⟨blanks, others, rfl, rfl, behind_blanks⟩ := Codes.ofChars_eq_append_iff.mp front
  obtain ⟨used, rest, rfl, same, rfl⟩ := Codes.ofChars_eq_append_iff.mp behind_blanks
  have ends : used = opener :: (inner.shown ++ [closer]) := by
    simpa using congrArg Codes.shown same
  have trimmed : Text.trim (blanks ++ (used ++ rest)) = used := by
    rw [Text.trim_padded (fun c hc => isBlank_of_isSpace (blank c (List.mem_map_of_mem hc)))
      (fun c hc => isBlank_of_isSpace (behind c (List.mem_map_of_mem hc))), ends,
      Text.trim_of_ends first last]
  rw [trimmed, same, read_of_unmarked (by simpa using mark), readText_eq_ok_iff,
    skip_of_shown shown]
  exact ⟨wrapped, [], alone, rfl⟩

end TableServer.Value
