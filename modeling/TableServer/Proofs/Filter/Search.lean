import TableServer.Proofs.Filter.Conditions
import TableServer.Proofs.Outcome
import TableServer.Proofs.Text.Words

/-! Text search. The words of a text are its longest runs of word characters. A query asks for its
words, or for words that start with them where the mark `:*` follows, and it finds the strings that
answer each of them; so two queries with a space between them ask for what both ask for. -/
namespace TableServer

variable {text word back : List Char} {c : Char}

theorem mark_prefix_iff {rest : List Char} :
    [':', '*'] <+: c :: rest ↔ c = ':' ∧ rest.head? = some '*' := by
  cases rest <;> simp [eq_comm]

theorem mark_prefix_spaced_iff (rest : List Char) :
    [':', '*'] <+: rest ++ ' ' :: back ↔ [':', '*'] <+: rest := by
  cases rest with
  | nil => simp
  | cons d rest =>
      rw [List.cons_append, mark_prefix_iff, mark_prefix_iff]
      cases rest <;> simp

namespace Term

variable {t : Term} {start : Bool} {terms : List Term}

theorem mem_close_iff :
    t ∈ close word start terms ↔ (word ≠ [] ∧ t.word = word ∧ t.start = start) ∨ t ∈ terms := by
  obtain ⟨w, s⟩ := t
  cases word <;> simp [close]

theorem mem_scan_iff (worded : ∀ c ∈ word, Text.isWord c = true) :
    t ∈ scan word text ↔ ∃ after, Text.HasWord (word ++ text) t.word after ∧
      (t.start = true ↔ [':', '*'] <+: after) := by
  induction text generalizing word with
  | nil =>
      rw [scan, mem_close_iff, List.append_nil]
      simp only [Text.hasWord_of_worded worded]
      constructor
      · rintro (⟨filled, same, unmarked⟩ | none)
        · exact ⟨[], ⟨filled, same, rfl⟩, by simp [unmarked]⟩
        · cases none
      · rintro ⟨after, ⟨filled, same, rfl⟩, mark⟩
        exact .inl ⟨filled, same, by simpa using mark⟩
  | cons c rest ih =>
      unfold scan
      split
      · rename_i more
        have longer : ∀ d ∈ word ++ [c], Text.isWord d = true := by
          simpa [or_imp, forall_and] using ⟨worded, more⟩
        rw [ih longer, List.append_assoc, List.singleton_append]
      · rename_i stop
        have stop := eq_false_of_ne_true stop
        have marked : (c = ':' && rest.head? = some '*') = true ↔ [':', '*'] <+: c :: rest := by
          rw [mark_prefix_iff, Bool.and_eq_true, decide_eq_true_eq, decide_eq_true_eq]
        rw [mem_close_iff, ih (List.forall_mem_nil _)]
        simp only [Text.hasWord_append_iff stop, Text.hasWord_of_worded worded, List.nil_append]
        constructor
        · rintro (⟨filled, same, started⟩ | ⟨after, has, mark⟩)
          · exact ⟨c :: rest, .inl ⟨[], ⟨filled, same, rfl⟩, rfl⟩, by rw [started, marked]⟩
          · exact ⟨after, .inr has, mark⟩
        · rintro ⟨after, ⟨_, ⟨filled, same, rfl⟩, rfl⟩ | has, mark⟩
          · exact .inl ⟨filled, same, Bool.eq_iff_iff.mpr (mark.trans marked.symm)⟩
          · exact .inr ⟨after, has, mark⟩

theorem scan_ne_nil (h : word ≠ [] ∨ ∃ c ∈ text, Text.isWord c = true) : scan word text ≠ [] := by
  induction text generalizing word with
  | nil =>
      have filled : word ≠ [] := h.resolve_right nofun
      simp [scan, close, filled]
  | cons c rest ih =>
      unfold scan
      split
      · exact ih (.inl (by simp))
      · rename_i stop
        cases word with
        | nil => exact ih (.inr (by simpa [stop] using h))
        | cons d word => simp [close]

/-- A query asks for a word of its small letters, or for the start of one where the mark follows. -/
def AskedBy (query : List Char) (t : Term) : Prop :=
  ∃ after, Text.HasWord (Text.lower query) t.word after ∧ (t.start = true ↔ [':', '*'] <+: after)

/-- A word of the small letters of a text is the one that is sought, or starts with it. -/
def AnsweredBy (text : Codes) (t : Term) : Prop :=
  ∃ word after, Text.HasWord (Text.lower text.shown) word after ∧
    if t.start = true then t.word <+: word else t.word = word

theorem mem_searchTerms_iff {query : List Char} : t ∈ searchTerms query ↔ t.AskedBy query :=
  mem_scan_iff (List.forall_mem_nil _)

theorem mem_wordsOf_iff {text : Codes} :
    word ∈ wordsOf text ↔ ∃ after, Text.HasWord (Text.lower text.shown) word after := by
  simp only [wordsOf, List.mem_map, mem_scan_iff (List.forall_mem_nil _), List.nil_append]
  constructor
  · rintro ⟨t, ⟨after, has, -⟩, rfl⟩
    exact ⟨after, has⟩
  · rintro ⟨after, has⟩
    exact ⟨⟨word, [':', '*'].isPrefixOf after⟩, ⟨after, has, List.isPrefixOf_iff_prefix⟩, rfl⟩

theorem foundIn_iff {text : Codes} : t.foundIn (wordsOf text) = true ↔ t.AnsweredBy text := by
  obtain ⟨sought, start⟩ := t
  cases start <;>
    simp [foundIn, AnsweredBy, mem_wordsOf_iff, List.any_eq_true, List.isPrefixOf_iff_prefix]

theorem askedBy_spaced_iff {query other : List Char} :
    t.AskedBy (query ++ ' ' :: other) ↔ t.AskedBy query ∨ t.AskedBy other := by
  have stop : Text.isWord ' ' = false := by decide
  rw [AskedBy, Text.lower_spaced]
  simp only [Text.hasWord_append_iff stop]
  constructor
  · rintro ⟨_, ⟨rest, has, rfl⟩ | has, mark⟩
    · exact .inl ⟨rest, has, mark.trans (mark_prefix_spaced_iff rest)⟩
    · exact .inr ⟨_, has, mark⟩
  · rintro (⟨rest, has, mark⟩ | ⟨after, has, mark⟩)
    · exact ⟨_, .inl ⟨rest, has, rfl⟩, mark.trans (mark_prefix_spaced_iff rest).symm⟩
    · exact ⟨after, .inr has, mark⟩

theorem askedBy_marked {query : List Char} (h : t.AskedBy (query ++ [':', '*'])) :
    ∃ u : Term, u.AskedBy query ∧ u.word = t.word ∧ (u.start = true → t.start = true) := by
  obtain ⟨after, has, mark⟩ := h
  have colon : Text.isWord ':' = false := by decide
  have star : Text.isWord '*' = false := by decide
  have none_in_nothing (rest : List Char) : ¬ Text.HasWord [] t.word rest :=
    fun has => ((Text.hasWord_of_worded (List.forall_mem_nil _)).mp has).1 rfl
  rw [Text.lower_marked, Text.hasWord_append_iff colon] at has
  rcases has with ⟨rest, has, rfl⟩ | in_star
  · refine ⟨⟨t.word, [':', '*'].isPrefixOf rest⟩, ⟨rest, has, List.isPrefixOf_iff_prefix⟩, rfl, ?_⟩
    intro started
    exact mark.mpr ((List.isPrefixOf_iff_prefix.mp started).trans (List.prefix_append _ _))
  · have parted : Text.HasWord ([] ++ '*' :: []) t.word after := in_star
    rcases (Text.hasWord_append_iff star).mp parted with ⟨rest, has, -⟩ | has
    · exact absurd has (none_in_nothing rest)
    · exact absurd has (none_in_nothing after)

theorem AnsweredBy.of_word_eq {text : Codes} {u : Term} (h : u.AnsweredBy text)
    (same : u.word = t.word)
    (wider : u.start = true → t.start = true) : t.AnsweredBy text := by
  obtain ⟨word, after, has, told⟩ := h
  refine ⟨word, after, has, ?_⟩
  split
  · split at told
    · exact same ▸ told
    · rw [← same, told]
  · rename_i whole
    rw [if_neg fun started => whole (wider started)] at told
    exact same.symm.trans told

end Term

theorem searchTerms_ne_nil {query : List Char} (h : Text.HoldsWord query) :
    searchTerms query ≠ [] :=
  Term.scan_ne_nil (.inr (h.lowerFrom []))

namespace Filter

variable {column query : List Char} {row : Value}

def searching (column query : List Char) : Filter :=
  .condition ⟨String.ofList column, String.ofList query, .search (searchTerms query)⟩

/-- The column holds a string that answers whatever the query asks for. -/
def Found (column query : List Char) (row : Value) : Prop :=
  ∃ members s, row = .object members ∧
    resolveColumn members (String.ofList column) = .ok (.string s) ∧
      ∀ t : Term, t.AskedBy query → t.AnsweredBy s

theorem read_search (h : Text.HoldsWord query) :
    read column (expression .search query) = .ok (searching column query) := by
  have read : Test.read .search query = .ok (.search (searchTerms query)) := by
    rw [Test.read, Test.readSearch]
    split
    · rename_i none
      exact absurd none (searchTerms_ne_nil h)
    · rfl
  rw [read_expression, read]
  rfl

theorem search_holds_iff {v : Value} : (Test.search (searchTerms query)).holds v = true ↔
    ∃ s, v = .string s ∧ ∀ t : Term, t.AskedBy query → t.AnsweredBy s := by
  cases v <;> simp [Test.holds, Term.mem_searchTerms_iff, Term.foundIn_iff]

theorem searching_holds_iff :
    (searching column query).holds row = .ok true ↔ Found column query row := by
  cases row with
  | object members =>
      change (resolveColumn members (String.ofList column)).map
        (Test.search (searchTerms query)).holds = .ok true ↔ _
      rw [Outcome.map_eq_ok_iff]
      simp only [search_holds_iff]
      constructor
      · rintro ⟨_, held, s, rfl, answers⟩
        exact ⟨members, s, rfl, held, answers⟩
      · rintro ⟨_, s, same, held, answers⟩
        cases same
        exact ⟨_, held, s, rfl, answers⟩
  | _ =>
      constructor
      · nofun
      · rintro ⟨_, _, same, -⟩
        cases same

theorem searching_fails_iff (column query other : List Char) (row : Value) (fault : Fault) :
    (searching column query).holds row = .error fault ↔
      (searching column other).holds row = .error fault := by
  cases row with
  | object members => exact Outcome.map_eq_error_iff.trans Outcome.map_eq_error_iff.symm
  | _ => exact Iff.rfl

theorem found_spaced_iff {other : List Char} :
    Found column (query ++ ' ' :: other) row ↔ Found column query row ∧ Found column other row := by
  constructor
  · rintro ⟨members, s, rfl, held, answers⟩
    exact ⟨⟨members, s, rfl, held, fun t ht => answers t (Term.askedBy_spaced_iff.mpr (.inl ht))⟩,
      ⟨members, s, rfl, held, fun t ht => answers t (Term.askedBy_spaced_iff.mpr (.inr ht))⟩⟩
  · rintro ⟨⟨members, s, rfl, held, answers⟩, _, _, same, held', answers'⟩
    cases same
    cases held.symm.trans held'
    exact ⟨members, s, rfl, held, fun t ht =>
      (Term.askedBy_spaced_iff.mp ht).elim (answers t) (answers' t)⟩

theorem Found.marked (h : Found column query row) : Found column (query ++ [':', '*']) row := by
  obtain ⟨members, s, rfl, held, answers⟩ := h
  refine ⟨members, s, rfl, held, fun t ht => ?_⟩
  obtain ⟨u, asked, same, wider⟩ := Term.askedBy_marked ht
  exact (answers u asked).of_word_eq same wider

/-- A search is the conjunction of its words. It finds the rows whose column answers all of them;
two searches joined by a space find what both find, and fail where they do; and the mark `:*` behind
a word, or behind any query, loses no row. -/
theorem search_of_words (column : List Char) :
    (∀ query, Text.HoldsWord query → ∃ f, read column (expression .search query) = .ok f ∧
      ∀ row, f.holds row = .ok true ↔ Found column query row) ∧
    (∀ first second, Text.HoldsWord first → Text.HoldsWord second → ∃ f₁ f₂ f,
      read column (expression .search first) = .ok f₁ ∧
      read column (expression .search second) = .ok f₂ ∧
      read column (expression .search (first ++ ' ' :: second)) = .ok f ∧
      ∀ row,
        (f.holds row = .ok true ↔ f₁.holds row = .ok true ∧ f₂.holds row = .ok true) ∧
        ∀ fault, f.holds row = .error fault ↔
          f₁.holds row = .error fault ∧ f₂.holds row = .error fault) ∧
    ∀ word, Text.HoldsWord word → ∃ f g,
      read column (expression .search word) = .ok f ∧
      read column (expression .search (word ++ [':', '*'])) = .ok g ∧
      ∀ row, f.holds row = .ok true → g.holds row = .ok true := by
  refine ⟨fun query h => ⟨_, read_search h, fun row => searching_holds_iff⟩, ?_, ?_⟩
  · intro first second h₁ h₂
    refine ⟨_, _, _, read_search h₁, read_search h₂, read_search (h₁.append (' ' :: second)),
      fun row => ⟨?_, fun fault => ?_⟩⟩
    · simp only [searching_holds_iff, found_spaced_iff]
    · have same := searching_fails_iff column first second row fault
      rw [searching_fails_iff column _ first, ← same, and_self]
  · intro word h
    refine ⟨_, _, read_search h, read_search (h.append [':', '*']), fun row found => ?_⟩
    exact searching_holds_iff.mpr (searching_holds_iff.mp found).marked

theorem search_of_words_of_streets :
    Text.HoldsWord "ΟΔΟΣ:".toList ∧ Text.HoldsWord "*Ada".toList ∧ Text.HoldsWord "ΟΔΟΣ".toList ∧
    Answers "title".toList (expression .search "ΟΔΟΣ: *Ada".toList)
      (.object [("title", .string "Ada (ΟΔΟΣ)")]) true ∧
    Answers "title".toList (expression .search "ΟΔΟΣ:*".toList)
      (.object [("title", .string "Ada (ΟΔΟΣ)")]) true := by
  have street : Text.HoldsWord "ΟΔΟΣ:".toList := ⟨'Ο', by decide, by decide⟩
  have ada : Text.HoldsWord "*Ada".toList := ⟨'A', by decide, by decide⟩
  have word : Text.HoldsWord "ΟΔΟΣ".toList := ⟨'Ο', by decide, by decide⟩
  obtain ⟨-, spaced, marked⟩ := search_of_words "title".toList
  refine ⟨street, ada, word, ?_, ?_⟩
  · obtain ⟨f₁, f₂, f, read₁, read₂, read, told⟩ := spaced _ _ street ada
    refine ⟨f, read, (told _).1.mpr ⟨?_, ?_⟩⟩
    · cases read₁
      rfl
    · cases read₂
      rfl
  · obtain ⟨f, g, read, read_marked, keeps⟩ := marked _ word
    refine ⟨g, read_marked, keeps _ ?_⟩
    cases read
    rfl

end Filter

end TableServer
