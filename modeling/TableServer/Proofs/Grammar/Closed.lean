import TableServer.Proofs.Grammar.Neutral

/-! Closed texts, in which every quote and every opening bracket is closed. They are the texts that
the splitter accepts, whatever it splits at. A closing bracket that is not due closes nothing and is
passed over, so that a closed text is balanced only where it has no such stray bracket. -/
namespace TableServer.Grammar

theorem unopened {c : Char} (h : c ∈ closers) : c ≠ '"' ∧ closerOf? c = none := by
  simp only [closers, List.mem_cons, List.not_mem_nil, or_false] at h
  rcases h with rfl | rfl | rfl <;> decide

/-- Texts in which quotes are closed and every opening bracket is closed by its own closing bracket,
in front of which all others are strays. `due` is the closing bracket of the bracket around the
text. -/
inductive Closed : (due : Option Char) → (strays text : List Char) → Prop where
  | nil {due : Option Char} : Closed due [] []
  | plain {due : Option Char} {strays rest : List Char} {c : Char} : c ≠ '"' → closerOf? c = none →
      c ∉ closers → Closed due strays rest → Closed due strays (c :: rest)
  | stray {due : Option Char} {strays rest : List Char} {c : Char} : c ∈ closers → due ≠ some c →
      Closed due strays rest → Closed due (c :: strays) (c :: rest)
  | quoted {due : Option Char} {strays inner rest : List Char} : Protected inner →
      Closed due strays rest → Closed due strays ('"' :: (inner ++ '"' :: rest))
  | bracketed {due : Option Char} {within strays inner rest : List Char} {opener closer : Char} :
      closerOf? opener = some closer → Closed (some closer) within inner → Closed due strays rest →
        Closed due (within ++ strays) (opener :: (inner ++ closer :: rest))

namespace Closed

variable {due : Option Char} {strays text : List Char}

theorem of_neutral {commas : Bool} (h : Neutral commas text) (due : Option Char) :
    Closed due [] text := by
  induction h generalizing due with
  | nil => exact nil
  | plain quote opener closer _ _ ih => exact plain quote opener closer (ih due)
  | quoted hidden _ ih => exact quoted hidden (ih due)
  | bracketed pair _ _ ih_inner ih => exact bracketed pair (ih_inner _) (ih due)

theorem neutral (h : Closed due strays text) (none_stray : strays = []) : Neutral true text := by
  induction h with
  | nil => exact .nil
  | plain quote opener closer _ ih =>
      exact .plain quote opener closer (fun _ => rfl) (ih none_stray)
  | stray _ _ _ _ => cases none_stray
  | quoted hidden _ ih => exact .quoted hidden (ih none_stray)
  | bracketed pair _ _ ih_inner ih =>
      obtain ⟨inner, outer⟩ := List.append_eq_nil_iff.mp none_stray
      exact .bracketed pair (ih_inner inner) (ih outer)

end Closed

namespace Scan

def after (s : Scan) (text : List Char) : Scan :=
  text.foldl next s

def strays (s : Scan) : List Char → List Char
  | [] => []
  | c :: rest =>
      if s.quoted = false ∧ c ∈ Grammar.closers ∧ s.closers.head? ≠ some c then
        c :: (s.next c).strays rest
      else (s.next c).strays rest

theorem after_cons (s : Scan) (c : Char) (rest : List Char) :
    s.after (c :: rest) = (s.next c).after rest :=
  rfl

theorem after_append (s : Scan) (text other : List Char) :
    s.after (text ++ other) = (s.after text).after other :=
  List.foldl_append

theorem strays_append (s : Scan) (text other : List Char) :
    s.strays (text ++ other) = s.strays text ++ (s.after text).strays other := by
  induction text generalizing s with
  | nil => rfl
  | cons c rest ih =>
      rw [List.cons_append, strays, strays, ih, after_cons]
      split <;> rfl

theorem next_of_cuts {separator c : Char} {s : Scan} (h : s.cuts separator c = true) :
    s.next c = s := by
  obtain ⟨due, quoted, escaped⟩ := s
  simp only [cuts, settled, Bool.and_eq_true, Bool.not_eq_true', List.isEmpty_iff,
    decide_eq_true_eq, Option.isNone_iff_eq_none] at h
  obtain ⟨⟨⟨⟨⟨rfl, rfl⟩, rfl⟩, -⟩, quote⟩, opener⟩ := h
  simp [next, quote, opener]

/-- A text is split exactly where the scan settles behind it, whatever the separator. -/
theorem split?_isSome (separator : Char) (s : Scan) (text : List Char) :
    (split? separator s text).isSome = (s.after text).settled := by
  induction text generalizing s with
  | nil =>
      rw [split?, after, List.foldl_nil]
      cases s.settled <;> rfl
  | cons c rest ih =>
      rw [split?, after_cons]
      split
      · rename_i cut
        rw [Option.isSome_map, ih, next_of_cuts cut]
      · rw [Option.isSome_map, ih]

/-- Whether a text leads from one scan to another past some strays. -/
def Leads (s : Scan) (strays text : List Char) (t : Scan) : Prop :=
  s.after text = t ∧ s.strays text = strays

namespace Leads

variable {s t u : Scan} {strays others text other : List Char}

theorem nil : Leads s [] [] s :=
  ⟨rfl, rfl⟩

theorem append (h : Leads s strays text t) (ho : Leads t others other u) :
    Leads s (strays ++ others) (text ++ other) u := by
  obtain ⟨rfl, rfl⟩ := h
  obtain ⟨rfl, rfl⟩ := ho
  exact ⟨after_append s text other, strays_append s text other⟩

theorem cons {c : Char} (due : s.quoted = false → c ∈ Grammar.closers → s.closers.head? = some c)
    (h : Leads (s.next c) strays text t) : Leads s strays (c :: text) t := by
  refine ⟨h.1, ?_⟩
  rw [Scan.strays, if_neg, h.2]
  exact fun ⟨unquoted, closer, not_due⟩ => not_due (due unquoted closer)

theorem cons_quoted {c : Char} (quoted : s.quoted = true) (h : Leads (s.next c) strays text t) :
    Leads s strays (c :: text) t := by
  refine cons (fun unquoted _ => ?_) h
  cases quoted.symm.trans unquoted

theorem stray {c : Char} (unquoted : s.quoted = false) (closer : c ∈ Grammar.closers)
    (not_due : s.closers.head? ≠ some c) (h : Leads (s.next c) strays text t) :
    Leads s (c :: strays) (c :: text) t := by
  refine ⟨h.1, ?_⟩
  rw [Scan.strays, if_pos ⟨unquoted, closer, not_due⟩, h.2]

theorem of_protected {due : List Char} (h : Protected text) :
    Leads ⟨due, true, false⟩ [] text ⟨due, true, false⟩ := by
  induction h with
  | nil => exact nil
  | plain quote backslash _ ih =>
      refine cons_quoted rfl ?_
      rwa [next, if_neg (by simp), if_neg (by simp [backslash]), if_neg quote, if_pos rfl]
  | escape c _ ih => exact cons_quoted rfl (cons_quoted rfl ih)

theorem of_closed {due : Option Char} (h : Closed due strays text) {stack : List Char}
    (head : stack.head? = due) (bracket : ∀ c, due = some c → c ∈ Grammar.closers) :
    Leads (.within stack) strays text (.within stack) := by
  induction h generalizing stack with
  | nil => exact nil
  | @plain due strays rest c quote opener closer _ ih =>
      have not_due : stack.head? ≠ some c := fun hc => closer (bracket c (head.symm.trans hc))
      have same : (within stack).next c = .within stack := by
        simp [within, next, quote, opener, not_due]
      exact cons (fun _ hc => absurd hc closer) (same.symm ▸ ih head bracket)
  | @stray due strays rest c closer not_due _ ih =>
      have not_head : stack.head? ≠ some c := fun hc => not_due (head.symm.trans hc)
      have same : (within stack).next c = .within stack := by
        obtain ⟨quote, opener⟩ := unopened closer
        simp [within, next, quote, opener, not_head]
      exact Leads.stray rfl closer not_head (same.symm ▸ ih head bracket)
  | quoted hidden _ ih =>
      refine cons (fun _ hc => absurd hc (by decide)) ?_
      exact append (of_protected hidden) (cons_quoted rfl (ih head bracket))
  | @bracketed due inside strays inner rest opener closer pair _ _ ih_inner ih =>
      obtain ⟨quote, backslash, is_closer, closer_quote, no_opener⟩ := closer_of_pair pair
      have opened : (within stack).next opener = .within (closer :: stack) := by
        simp [within, next, quote, pair]
      have closed : (within (closer :: stack)).next closer = .within stack := by
        simp [within, next, closer_quote, no_opener]
      have deeper : Leads (.within (closer :: stack)) inside inner (.within (closer :: stack)) :=
        ih_inner rfl fun c hc => Option.some.inj hc ▸ is_closer
      have opener_unclosing : opener ∉ Grammar.closers := fun ho => by
        simp [(unopened ho).2] at pair
      refine cons (fun _ ho => absurd ho opener_unclosing) ?_
      rw [opened]
      refine append deeper (cons (fun _ _ => rfl) ?_)
      rw [closed]
      exact ih head bracket

theorem of_start (h : Closed none strays text) : Leads .start strays text .start :=
  of_closed h (show [].head? = none from rfl) nofun

end Leads

end Scan

/-- Texts that close their quotes and then, from within, the brackets that are due. -/
inductive Finishes : (due text : List Char) → Prop where
  | last {strays text : List Char} : Closed none strays text → Finishes [] text
  | closing {closer : Char} {due strays inner rest : List Char} :
      Closed (some closer) strays inner → Finishes due rest →
        Finishes (closer :: due) (inner ++ closer :: rest)

namespace Finishes

variable {due text : List Char}

theorem extend (front : List Char)
    (extended : ∀ {strays rest : List Char}, Closed due.head? strays rest →
      ∃ more, Closed due.head? more (front ++ rest))
    (h : Finishes due text) : Finishes due (front ++ text) := by
  cases h with
  | last closed =>
      obtain ⟨more, longer⟩ := extended closed
      exact last longer
  | closing closed others =>
      obtain ⟨more, longer⟩ := extended closed
      rw [← List.append_assoc]
      exact closing longer others

theorem bracketed {opener closer : Char} (pair : closerOf? opener = some closer)
    (h : Finishes (closer :: due) text) : Finishes due (opener :: text) := by
  cases h with
  | @closing _ _ strays inner rest closed others =>
      have := extend (opener :: (inner ++ [closer]))
        (fun outer => ⟨_, by simpa using Closed.bracketed pair closed outer⟩) others
      simpa using this

def Unquotes (due text : List Char) : Prop :=
  ∃ inner rest, text = inner ++ '"' :: rest ∧ Protected inner ∧ Finishes due rest

theorem Unquotes.escape {c : Char} (h : Unquotes due text) : Unquotes due ('\\' :: c :: text) := by
  obtain ⟨inner, rest, rfl, hidden, finish⟩ := h
  exact ⟨'\\' :: c :: inner, rest, rfl, hidden.escape c, finish⟩

theorem Unquotes.plain {c : Char} (quote : c ≠ '"') (backslash : c ≠ '\\')
    (h : Unquotes due text) : Unquotes due (c :: text) := by
  obtain ⟨inner, rest, rfl, hidden, finish⟩ := h
  exact ⟨c :: inner, rest, rfl, hidden.plain quote backslash, finish⟩

theorem Unquotes.finishes (h : Unquotes due text) : Finishes due ('"' :: text) := by
  obtain ⟨inner, rest, rfl, hidden, finish⟩ := h
  have := extend ('"' :: (inner ++ ['"']))
    (fun closed => ⟨_, by simpa using Closed.quoted hidden closed⟩) finish
  simpa using this

theorem close {c : Char} (head : due.head? = some c) (h : Finishes due.tail text) :
    Finishes due (c :: text) := by
  cases due with
  | nil => cases head
  | cons closer others => exact Option.some.inj head ▸ closing .nil h

theorem pass {c : Char} (quote : c ≠ '"') (opener : closerOf? c = none)
    (not_due : due.head? ≠ some c) (h : Finishes due text) : Finishes due (c :: text) := by
  by_cases closer : c ∈ closers
  · exact extend [c] (fun closed => ⟨_, .stray closer not_due closed⟩) h
  · exact extend [c] (fun closed => ⟨_, .plain quote opener closer closed⟩) h

theorem of_settled (text : List Char) : ∀ due : List Char,
    (Scan.settled (.after ⟨due, false, false⟩ text) = true → Finishes due text) ∧
    (Scan.settled (.after ⟨due, true, false⟩ text) = true → Unquotes due text) ∧
    (Scan.settled (.after ⟨due, true, true⟩ text) = true →
      ∃ c rest, text = c :: rest ∧ Unquotes due rest) := by
  -- One induction for the three states of a scan, since a quote and a backslash lead between them.
  induction text with
  | nil =>
      refine fun due => ⟨fun h => ?_, nofun, nofun⟩
      obtain rfl : due = [] := by simpa [Scan.after, Scan.settled] using h
      exact last .nil
  | cons c rest ih =>
      intro due
      refine ⟨fun h => ?outside, fun h => ?quoted, fun h => ?escaped⟩ <;> rw [Scan.after_cons] at h
      case outside =>
        by_cases quote : c = '"'
        · subst quote
          exact ((ih due).2.1 h).finishes
        · cases pair : closerOf? c with
          | some closer =>
              refine bracketed pair ((ih (closer :: due)).1 ?_)
              simpa [Scan.next, quote, pair] using h
          | none =>
              by_cases head : due.head? = some c
              · refine close head ((ih due.tail).1 ?_)
                simpa [Scan.next, quote, pair, head] using h
              · refine pass quote pair head ((ih due).1 ?_)
                simpa [Scan.next, quote, pair, head] using h
      case quoted =>
        by_cases backslash : c = '\\'
        · subst backslash
          obtain ⟨c, others, rfl, unquotes⟩ := (ih due).2.2 h
          exact unquotes.escape
        · by_cases quote : c = '"'
          · subst quote
            exact ⟨[], rest, rfl, .nil, (ih due).1 h⟩
          · refine Unquotes.plain quote backslash ((ih due).2.1 ?_)
            simpa [Scan.next, quote, backslash] using h
      case escaped => exact ⟨c, rest, rfl, (ih due).2.1 h⟩

end Finishes

theorem split?_isSome_iff (separator : Char) (text : List Char) :
    (split? separator .start text).isSome = true ↔ ∃ strays, Closed none strays text := by
  rw [Scan.split?_isSome]
  constructor
  · intro settled
    obtain ⟨closed⟩ := (Finishes.of_settled text []).1 settled
    exact ⟨_, closed⟩
  · rintro ⟨strays, closed⟩
    rw [(Scan.Leads.of_start closed).1]
    rfl

theorem Closed.strays_eq {strays text : List Char} (h : Closed none strays text) :
    Scan.start.strays text = strays :=
  (Scan.Leads.of_start h).2

theorem Closed.neutral_iff {strays text : List Char} (h : Closed none strays text) :
    Neutral true text ↔ strays = [] := by
  refine ⟨fun balanced => ?_, h.neutral⟩
  exact h.strays_eq.symm.trans (Closed.of_neutral balanced none).strays_eq

end TableServer.Grammar
