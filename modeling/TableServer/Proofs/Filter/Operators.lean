import TableServer.Filter.Reader
import TableServer.Proofs.Outcome
import TableServer.Proofs.Text.Parts

/-! Tokens of operators. An operator is written by one of its names, and a text search with a word
in parentheses behind its name. Such a word is passed over behind the other names as well, and so is
a line feed behind it; every other token is refused, negated or not. -/
namespace TableServer

namespace Operator

structure Configuration (word : List Char) : Prop where
  filled : word ≠ []
  isWord : ∀ c ∈ word, Text.isWord c = true

def configuredToken (name : String) (word ending : List Char) : List Char :=
  name.toList ++ '(' :: (word ++ ')' :: ending)

/-- The tokens of an operator: its names, and those of the text search with a configuration. -/
inductive Documents (operator : Operator) : List Char → Prop where
  | name {name : String} : (name, operator) ∈ names → Documents operator name.toList
  | search {name : String} {word : List Char} : operator = .search → (name, operator) ∈ names →
      Configuration word → Documents operator (configuredToken name word [])

/-- The tokens that are taken for an operator all the same: another operator with a word in
parentheses, and a configuration with a line feed behind it. -/
inductive Overreads (operator : Operator) : List Char → Prop where
  | modifier {name : String} {word ending : List Char} : operator ≠ .search →
      (name, operator) ∈ names → Configuration word → ending ∈ [[], ['\n']] →
        Overreads operator (configuredToken name word ending)
  | lineFeed {name : String} {word : List Char} : operator = .search → (name, operator) ∈ names →
      Configuration word → Overreads operator (configuredToken name word ['\n'])

theorem ofName?_eq_some_iff {name : String} {operator : Operator} :
    ofName? name = some operator ↔ (name, operator) ∈ names := by
  have each : ∀ p ∈ names, ofName? p.1 = some p.2 := by decide
  refine ⟨fun h => ?_, each (name, operator)⟩
  obtain ⟨before, after, split, -⟩ := List.lookup_eq_some_iff.mp h
  rw [split]
  exact List.mem_append_right _ List.mem_cons_self

variable {token name word ending : List Char}

theorem takeWhile_word (h : ∀ c ∈ word, Text.isWord c = true) {mark : Char}
    (stop : Text.isWord mark = false) (rest : List Char) :
    (word ++ mark :: rest).takeWhile Text.isWord = word ∧
      (word ++ mark :: rest).dropWhile Text.isWord = mark :: rest := by
  constructor
  · rw [List.takeWhile_append_of_pos h, List.takeWhile_cons_of_neg (by simp [stop]),
      List.append_nil]
  · rw [List.dropWhile_append_of_pos h, List.dropWhile_cons_of_neg (by simp [stop])]

/-- A name is configured by a word in parentheses, which one line feed may follow. -/
theorem configured?_eq_some_iff : configured? token = some name ↔
    name ≠ [] ∧ (∀ c ∈ name, Text.isWord c = true) ∧ ∃ word ending, Configuration word ∧
      ending ∈ [[], ['\n']] ∧ token = name ++ '(' :: (word ++ ')' :: ending) := by
  constructor
  · intro h
    unfold configured? at h
    dsimp only at h
    split at h
    · cases h
    · rename_i filled
      split at h
      · rename_i inner behind
        split at h
        · cases h
        · rename_i filled'
          split at h
          · rename_i tail
            cases h
            have all_word (text : List Char) :
                ∀ c ∈ text.takeWhile Text.isWord, Text.isWord c = true :=
              List.all_eq_true.mp List.all_takeWhile
            have front := List.takeWhile_append_dropWhile (p := Text.isWord) (l := token)
            have back := List.takeWhile_append_dropWhile (p := Text.isWord) (l := inner)
            rw [List.isEmpty_iff] at filled filled'
            refine ⟨filled, all_word token, inner.takeWhile Text.isWord, ?_⟩
            rw [behind] at front
            rcases tail with tail | tail
            · exact ⟨[], ⟨filled', all_word inner⟩, by simp, by rw [← tail, back, front]⟩
            · exact ⟨['\n'], ⟨filled', all_word inner⟩, by simp, by rw [← tail, back, front]⟩
          · cases h
      · cases h
  · rintro ⟨filled, named, word, ending, ⟨filled', worded⟩, ends, rfl⟩
    obtain ⟨front, back⟩ := takeWhile_word named (show Text.isWord '(' = false by decide)
      (word ++ ')' :: ending)
    obtain ⟨front', back'⟩ := takeWhile_word worded (show Text.isWord ')' = false by decide) ending
    rw [configured?]
    simp only [front, back, front', back', List.isEmpty_iff, filled, filled', if_false]
    simp only [List.mem_cons, List.not_mem_nil, or_false] at ends
    exact if_pos (ends.imp (· ▸ rfl) (· ▸ rfl))

theorem configured?_name {name : String} {operator : Operator} (h : (name, operator) ∈ names) :
    configured? name.toList = none := by
  have each : ∀ p ∈ names, configured? p.1.toList = none := by decide
  exact each (name, operator) h

theorem configured?_configuredToken {name : String} {operator : Operator}
    (h : (name, operator) ∈ names) (configuration : Configuration word)
    (ends : ending ∈ [[], ['\n']]) :
    configured? (configuredToken name word ending) = some name.toList := by
  have each : ∀ p ∈ names, p.1.toList ≠ [] ∧ p.1.toList.all Text.isWord = true := by decide
  obtain ⟨filled, worded⟩ := each (name, operator) h
  exact configured?_eq_some_iff.mpr
    ⟨filled, List.all_eq_true.mp worded, word, ending, configuration, ends, rfl⟩

theorem bareName_configuredToken {name : String} {operator : Operator}
    (h : (name, operator) ∈ names) (configuration : Configuration word)
    (ends : ending ∈ [[], ['\n']]) : bareName (configuredToken name word ending) = name := by
  rw [bareName, configured?_configuredToken h configuration ends, Option.getD_some,
    String.ofList_toList]

theorem read_eq_ok_iff {operator : Operator} :
    read token = .ok operator ↔ operator.Documents token ∨ operator.Overreads token := by
  have named : read token = .ok operator ↔ (bareName token, operator) ∈ names := by
    rw [← ofName?_eq_some_iff, read]
    split
    · rename_i told
      rw [told, Except.ok.injEq, Option.some.injEq]
    · rename_i untold
      simp [untold]
  rw [named]
  constructor
  · intro h
    cases configured : configured? token with
    | none =>
        rw [bareName, configured, Option.getD_none] at h
        have documents := Documents.name h
        rw [String.toList_ofList] at documents
        exact .inl documents
    | some name =>
        rw [bareName, configured, Option.getD_some] at h
        obtain ⟨-, -, word, ending, configuration, ends, rfl⟩ :=
          configured?_eq_some_iff.mp configured
        have spelt : name ++ '(' :: (word ++ ')' :: ending) =
            configuredToken (String.ofList name) word ending := by
          rw [configuredToken, String.toList_ofList]
        rw [spelt]
        by_cases search : operator = .search
        · simp only [List.mem_cons, List.not_mem_nil, or_false] at ends
          rcases ends with rfl | rfl
          · exact .inl (.search search h configuration)
          · exact .inr (.lineFeed search h configuration)
        · exact .inr (.modifier search h configuration ends)
  · rintro ((h | ⟨-, h, configuration⟩) | (⟨-, h, configuration, ends⟩ | ⟨-, h, configuration⟩))
    · rwa [bareName, configured?_name h, Option.getD_none, String.ofList_toList]
    · rwa [bareName_configuredToken h configuration (by simp)]
    · rwa [bareName_configuredToken h configuration ends]
    · rwa [bareName_configuredToken h configuration (by simp)]

def unsupported (token : List Char) : ServiceError :=
  (ServiceError.malformed ("Unsupported filter operator \"" ++ bareName token ++ "\"")).withHint
    ("supported operators: " ++ String.intercalate ", " (names.map Prod.fst))

theorem read_eq_error (h : ∀ operator, ¬ read token = .ok operator) :
    read token = .error (.service (unsupported token)) := by
  rw [read]
  split
  · rename_i operator told
    refine absurd ?_ (h operator)
    rw [read, told]
  · rfl

end Operator

namespace Filter

/-- A condition as it is written, with any token for the operator, perhaps behind `not.`. -/
def posed (negated : Bool) (token literal : List Char) : List Char :=
  (if negated then "not.".toList else []) ++ (token ++ '.' :: literal)

theorem read_posed {token : List Char} (undotted : '.' ∉ token) (unnegated : token ≠ "not".toList)
    (column literal : List Char) (negated : Bool) :
    read column (posed negated token literal) = (Operator.read token).bind fun operator =>
      (Test.read operator literal).map fun test =>
        negateIf negated (.condition ⟨String.ofList column, String.ofList literal, test⟩) := by
  have cut := Text.cut?_append undotted literal
  have opened : Text.dropStart? "not.".toList (posed negated token literal) =
      if negated then some (token ++ '.' :: literal) else none := by
    cases negated with
    | true => exact Text.dropStart?_eq_some_iff.mpr rfl
    | false =>
        -- Only the word itself has its point where `not.` has it.
        refine Option.eq_none_iff_forall_not_mem.mpr fun rest told => unnegated ?_
        have spelt : token ++ '.' :: literal = "not.".toList ++ rest :=
          Text.dropStart?_eq_some_iff.mp told
        change _ = "not".toList ++ '.' :: rest at spelt
        rw [spelt, Text.cut?_append (by decide)] at cut
        exact (congrArg Prod.fst (Option.some.inj cut)).symm
  have body : (Text.dropStart? "not.".toList (posed negated token literal)).getD
      (posed negated token literal) = token ++ '.' :: literal := by
    rw [opened]
    cases negated <;> rfl
  have positive :
      (Text.dropStart? "not.".toList (posed negated token literal)).isSome = negated := by
    rw [opened]
    cases negated <;> rfl
  simp only [read, body, cut, positive]
  cases Operator.read token with
  | error e => rfl
  | ok operator =>
      change Except.bind (Test.read operator literal) _ = (Test.read operator literal).map _
      cases Test.read operator literal <;> rfl

/-- A condition is read by its token, negated or not: as the operator that documents the token, and
as the operator that overreads it; any other token is refused for itself, whatever its literal. -/
theorem read_by_token {token : List Char} (undotted : '.' ∉ token)
    (unnegated : token ≠ "not".toList) (column literal : List Char) (negated : Bool) :
    (∀ operator : Operator, operator.Documents token ∨ operator.Overreads token →
      read column (posed negated token literal) = (Test.read operator literal).map fun test =>
        negateIf negated (.condition ⟨String.ofList column, String.ofList literal, test⟩)) ∧
    ((∀ operator : Operator, ¬ operator.Documents token ∧ ¬ operator.Overreads token) →
      read column (posed negated token literal) = .error (.service (Operator.unsupported token)) ∧
        (Operator.unsupported token).kind = .malformed) := by
  have told := read_posed undotted unnegated column literal negated
  constructor
  · intro operator spelt
    rw [told, Operator.read_eq_ok_iff.mpr spelt, Except.bind]
  · intro unspelt
    have refused := Operator.read_eq_error fun operator read =>
      (Operator.read_eq_ok_iff.mp read).elim (unspelt operator).1 (unspelt operator).2
    exact ⟨by rw [told, refused, Except.bind], rfl⟩

theorem read_by_token_of_between :
    ('.' ∉ "between(any)".toList ∧ "between(any)".toList ≠ "not".toList) ∧
    (read "id".toList "not.between(any).1".toList =
        .error (.service (Operator.unsupported "between(any)".toList)) ∧
      (Operator.unsupported "between(any)".toList).message =
        "Unsupported filter operator \"between\"") ∧
    Operator.search.Documents "plfts(english)".toList ∧
      read "title".toList "not.plfts(english).ada".toList =
        .ok (.negation (.condition ⟨"title", "ada", .search [⟨"ada".toList, false⟩]⟩)) := by
  have undotted : '.' ∉ "between(any)".toList := by decide
  have unnegated : "between(any)".toList ≠ "not".toList := by decide
  have refused : Operator.read "between(any)".toList =
      .error (.service (Operator.unsupported "between(any)".toList)) := rfl
  have unspelt (operator : Operator) : ¬ operator.Documents "between(any)".toList ∧
      ¬ operator.Overreads "between(any)".toList := by
    rw [← not_or, ← Operator.read_eq_ok_iff, refused]
    nofun
  have configuration : Operator.Configuration "english".toList :=
    ⟨by decide, List.all_eq_true.mp (by decide)⟩
  have documents : Operator.search.Documents "plfts(english)".toList :=
    Operator.Documents.search rfl (show ("plfts", Operator.search) ∈ Operator.names by decide)
      configuration
  have law := (read_by_token undotted unnegated "id".toList "1".toList true).2 unspelt
  have searched := (read_by_token (show '.' ∉ "plfts(english)".toList by decide) (by decide)
    "title".toList "ada".toList true).1 .search (.inl documents)
  exact ⟨⟨undotted, unnegated⟩, ⟨law.1, by decide⟩, documents, searched⟩

/-- A token that no operator documents is read as the operator `like`. -/
theorem like_any_overread :
    ¬ ∀ (column token literal : List Char), '.' ∉ token → token ≠ "not".toList →
      (∀ operator : Operator, ¬ operator.Documents token) → ∃ e : ServiceError,
        e.kind = .malformed ∧ read column (posed false token literal) = .error (.service e) := by
  intro refused
  have taken : Operator.read "like(any)".toList = .ok .like := rfl
  have undocumented (operator : Operator) : ¬ operator.Documents "like(any)".toList := by
    intro documents
    have same := Operator.read_eq_ok_iff.mpr (.inl documents)
    cases taken.symm.trans same
    generalize spelt : "like(any)".toList = token at documents
    cases documents with
    | name listed =>
        cases String.toList_inj.mp spelt
        exact absurd listed (by decide)
    | search other _ _ => cases other
  obtain ⟨e, -, failed⟩ :=
    refused "title".toList "like(any)".toList "a*".toList (by decide) (by decide) undocumented
  have accepted : read "title".toList (posed false "like(any)".toList "a*".toList) =
      .ok (.condition ⟨"title", "a*", .like [.exact 'a', .many]⟩) := rfl
  cases accepted.symm.trans failed

end Filter

end TableServer
