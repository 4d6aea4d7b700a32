import TableServer.Column.Path
import TableServer.Proofs.Outcome
import TableServer.Proofs.Text.Parts
import TableServer.Query.Window

/-! What fails, and on which texts. The result of each function is told by two properties, one of
its values and one of its failures, and the properties of a chain follow from those of its steps. -/
namespace TableServer

/-- A result that has a property where it is a value, and another one where it is a failure. -/
def Yields {ε α : Type} (good : α → Prop) (bad : ε → Prop) : Except ε α → Prop
  | .ok a => good a
  | .error e => bad e

abbrev FailsOnly {ε α : Type} (bad : ε → Prop) (x : Except ε α) : Prop :=
  Yields (fun _ => True) bad x

abbrev GivesOnly {ε α : Type} (good : α → Prop) (x : Except ε α) : Prop :=
  Yields good (fun _ => True) x

namespace Yields

variable {ε α β : Type} {p : α → Prop} {q : β → Prop} {bad : ε → Prop} {x : Except ε α}

theorem map {f : α → β} (h : Yields p bad x) (step : ∀ a, p a → q (f a)) :
    Yields q bad (x.map f) := by
  cases x with
  | error e => exact h
  | ok a => exact step a h

theorem bind {f : α → Except ε β} (h : Yields p bad x)
    (step : ∀ a, p a → Yields q bad (f a)) : Yields q bad (x.bind f) := by
  cases x with
  | error e => exact h
  | ok a => exact step a h

@[elab_as_elim]
theorem elim {motive : Except ε α → Prop} (h : Yields p bad x)
    (ok : ∀ a, x = .ok a → p a → motive (.ok a)) (error : ∀ e, bad e → motive (.error e)) :
    motive x := by
  cases x with
  | error e => exact error e h
  | ok a => exact ok a rfl h

theorem imp {w : α → Prop} (h : Yields p bad x)
    (step : ∀ a, x = .ok a → p a → w a) : Yields w bad x := by
  cases x with
  | error e => exact h
  | ok a => exact step a rfl h

theorem of_eq_ok {a : α} (h : Yields p bad x) (he : x = .ok a) : p a := by
  subst he
  exact h

theorem mapM {f : α → Except ε β} {xs : List α} (each : ∀ x ∈ xs, Yields q bad (f x)) :
    Yields (fun ys => ∀ y ∈ ys, q y) bad (xs.mapM f) := by
  induction xs with
  | nil => exact fun y hy => absurd hy List.not_mem_nil
  | cons x xs ih =>
      rw [List.mapM_cons]
      refine bind (each x (by simp)) fun y hy => ?_
      refine bind (ih fun z hz => each z (by simp [hz])) fun ys hys => ?_
      exact List.forall_mem_cons.mpr ⟨hy, hys⟩

theorem foldlM {f : β → α → Except ε β} {xs : List α} {start : β} (first : q start)
    (step : ∀ b, ∀ x ∈ xs, q b → Yields q bad (f b x)) :
    Yields q bad (xs.foldlM f start) := by
  induction xs generalizing start with
  | nil => exact first
  | cons x xs ih =>
      rw [List.foldlM_cons]
      refine bind (step start x (by simp) first) fun b hb => ?_
      exact ih hb fun c z hz => step c z (by simp [hz])

end Yields

def Spelt (sources : List (List Char)) (text : List Char) : Prop :=
  ∃ source ∈ sources, text <:+: source

theorem Spelt.part {sources : List (List Char)} {text inner : List Char} (h : Spelt sources text)
    (inside : inner <:+: text) : Spelt sources inner := by
  obtain ⟨source, hs, spelt⟩ := h
  exact ⟨source, hs, inside.trans spelt⟩

/-- Faults that come of what the sources spell: a step of a path that looks like a place in a list
and is no integer, decimal digits that are none, and a literal with an integer that is too long. -/
inductive Fault.Due (sources : List (List Char)) : Fault → Prop where
  | step {column : List Char} {s : Step} {cause : IntegerFault} : Spelt sources column →
      s ∈ (Path.read column).steps → isIndexKey s.key = true →
      Number.readInteger s.key = .error cause → Due sources (.integer cause s.key)
  | digits {text : List Char} {cause : IntegerFault} : Spelt sources text → text ≠ [] →
      (∀ c ∈ text, Text.isDecimal c = true) → Number.readInteger text = .error cause →
      Due sources (.integer cause text)
  | literal {text : List Char} {digits : Nat} : Spelt sources text →
      Value.read (.ofChars text) = .error (.integerTooLong digits) →
      Due sources (.integer (.tooLong digits) text)

/-- Failures of what is read or run: errors that blame the request, and faults that come of what the
sources spell. -/
def Failure.Due (sources : List (List Char)) : Failure → Prop
  | .service e => e.status = 400
  | .fault f => f.Due sources

/-- Service errors of every status are answered. -/
def Failure.FaultDue (sources : List (List Char)) : Failure → Prop
  | .service _ => True
  | .fault f => f.Due sources

variable {sources : List (List Char)}

theorem Yields.faultDue {α : Type} {good : α → Prop} {x : Outcome α}
    (h : Yields good (Failure.Due sources) x) : Yields good (Failure.FaultDue sources) x := by
  match x, h with
  | .ok a, h => exact h
  | .error (.service e), _ => trivial
  | .error (.fault f), h => exact h

/-- Following a path fails at a key that looks like a place in a list and is no integer. -/
theorem resolveColumn_yields {column : String} (spelt : Spelt sources column.toList)
    (row : Members) :
    FailsOnly (Fault.Due sources) (resolveColumn row column) := by
  refine .map (p := fun _ => True) (.foldlM trivial fun v s hs _ => ?_) fun _ _ => trivial
  unfold Step.into
  split
  · trivial
  · split
    · rename_i figures
      split
      · trivial
      · rename_i refused
        exact .step spelt hs figures refused
    · trivial
  · trivial

namespace Grammar

theorem unwrap_yields (opener closer : Char) (what : String) (text : List Char) :
    Yields (· <:+: text) (Failure.Due sources) (unwrap opener closer what text) := by
  unfold Grammar.unwrap
  split
  · rename_i inside
    exact infix_of_inside? inside
  · trivial

theorem splitTopLevel_yields (separator : Char) (text : List Char) :
    Yields (fun parts => ∀ part ∈ parts, part <:+: text) (Failure.Due sources)
      (splitTopLevel separator text) := by
  unfold Grammar.splitTopLevel
  split
  · rename_i split
    exact fun part hp => (split?_standIn split).isInfix hp
  · trivial

end Grammar

namespace Window

theorem readCount_yields (key : String) (text : List Char) :
    FailsOnly (Failure.Due sources) (readCount key text) := by
  unfold readCount
  split
  · trivial
  · split <;> trivial

theorem readDigits_yields {digits : List Char} (spelt : Spelt sources digits)
    (some_digit : digits ≠ []) (decimal : ∀ c ∈ digits, Text.isDecimal c = true) :
    FailsOnly (Failure.Due sources) (readDigits digits) := by
  unfold readDigits
  split
  · trivial
  · rename_i refused
    exact .digits spelt some_digit decimal refused

structure RangeText.StandsIn (r : RangeText) (text : List Char) : Prop where
  first : r.first <:+: text
  last : r.last <:+: text
  some_digit : r.first ≠ []
  first_decimal : ∀ c ∈ r.first, Text.isDecimal c = true
  last_decimal : ∀ c ∈ r.last, Text.isDecimal c = true

theorem standsIn_of_rangeText? {text : List Char} {r : RangeText} (h : rangeText? text = some r) :
    r.StandsIn text := by
  have inner : text.dropWhile Text.isBlank <:+: text := (List.dropWhile_suffix _).isInfix
  unfold rangeText? at h
  dsimp only at h
  split at h
  · rename_i rest behind
    split at h
    · cases h
    · rename_i told
      cases h
      have tail : rest <:+: text := by
        refine (List.suffix_cons '-' rest).isInfix.trans (.trans ?_ inner)
        exact behind ▸ (List.dropWhile_suffix _).isInfix
      have decimal (digits : List Char) :
          ∀ c ∈ digits.takeWhile Text.isDecimal, Text.isDecimal c = true :=
        List.all_eq_true.mp List.all_takeWhile
      refine ⟨(List.takeWhile_prefix _).isInfix.trans inner,
        (List.takeWhile_prefix _).isInfix.trans tail, ?_, decimal _, decimal _⟩
      simp only [Bool.or_eq_true, not_or, List.isEmpty_iff] at told
      exact told.1
  · cases h

theorem ofRange_yields {body : List Char} {r : RangeText} (spelt : Spelt sources body)
    (stands : r.StandsIn body) (text : List Char) :
    FailsOnly (Failure.Due sources) (ofRange text r) := by
  refine .bind (readDigits_yields (spelt.part stands.first) stands.some_digit
    stands.first_decimal) fun first _ => ?_
  split
  · trivial
  · rename_i told
    have some_digit : r.last ≠ [] := by simpa using told
    refine .bind (readDigits_yields (spelt.part stands.last) some_digit stands.last_decimal)
      fun last _ => ?_
    split <;> trivial

theorem readRange_yields {text : List Char} (spelt : Spelt sources text) (key : String) :
    FailsOnly (Failure.Due sources) (readRange key text) := by
  unfold readRange
  dsimp only
  split
  · trivial
  · rename_i r told
    split
    · trivial
    · exact ofRange_yields spelt (standsIn_of_rangeText? told) text

theorem readHeader_yields {header : Option String}
    (spelt : ∀ text, header = some text → Spelt sources text.toList) :
    FailsOnly (Failure.Due sources) (readHeader header) := by
  cases header with
  | none => trivial
  | some told =>
      have body : Spelt sources ((Text.dropStart? "items=".toList told.toList).getD told.toList) := by
        cases hd : Text.dropStart? "items=".toList told.toList with
        | none => exact spelt told rfl
        | some rest => exact (spelt told rfl).part (Text.suffix_of_dropStart? hd).isInfix
      unfold readHeader
      rw [Option.getD_some]
      split
      · trivial
      · split
        · trivial
        · rename_i r ranged
          exact ofRange_yields body (standsIn_of_rangeText? ranged) _

end Window

end TableServer
