import TableServer.Proofs.Value.Equality
import TableServer.Value.Reader

/-! Values that are read from JSON text. Each reader has one lemma that tells what it may have read
and from which shorter texts. Objects that are read name every member once. -/
namespace TableServer.Value

theorem mem_of_readWord? {text rest : Codes} {v : Value} {words : List (String × Value)}
    (h : readWord? text words = some (v, rest)) : ∃ word, (word, v) ∈ words := by
  induction words with
  | nil => cases h
  | cons w others ih =>
      obtain ⟨word, value⟩ := w
      unfold readWord? at h
      split at h
      · cases h
        exact ⟨word, by simp⟩
      · obtain ⟨other, ho⟩ := ih h
        exact ⟨other, List.mem_cons_of_mem _ ho⟩

theorem tidy_of_readScalar {text : Codes} {v : Value} {rest : Shorter text}
    (h : readScalar text = .ok (v, rest)) : Tidy v := by
  unfold readScalar at h
  split at h
  · rename_i word _ found
    obtain ⟨w, member⟩ := mem_of_readWord? found
    cases h
    simp only [words, List.mem_cons, Prod.mk.injEq, List.not_mem_nil, or_false] at member
    rcases member with ⟨-, rfl⟩ | ⟨-, rfl⟩ | ⟨-, rfl⟩ | ⟨-, rfl⟩ | ⟨-, rfl⟩ | ⟨-, rfl⟩
    · exact .null
    · exact .bool true
    · exact .bool false
    · exact .number _
    · exact .number _
    · exact .number _
  · split at h
    · cases h
      exact .number _
    · cases h

theorem readValue_cases {text : Codes} {v : Value} {rest : Shorter text}
    (h : readValue text = .ok (v, rest)) :
    (∃ s, v = .string s) ∨ v = .array [] ∨ v = .object [] ∨ readScalar text = .ok (v, rest) ∨
      (∃ inner items tail, inner.length < text.length ∧ readItems inner = .ok (items, tail) ∧
        v = .array items) ∨
      ∃ inner pairs tail, inner.length < text.length ∧ readMembers inner = .ok (pairs, tail) ∧
        v = .ofPairs pairs := by
  unfold readValue at h
  split at h
  · split at h
    · cases h
    · cases h
      exact .inl ⟨_, rfl⟩
  · rename_i inner
    have shorter := length_skip_le inner
    split at h
    · cases h
      exact .inr (.inl rfl)
    · split at h
      · cases h
      · rename_i read
        cases h
        refine .inr (.inr (.inr (.inr (.inl ⟨_, _, _, ?_, read, rfl⟩))))
        simp only [List.length_cons]
        omega
  · rename_i inner
    have shorter := length_skip_le inner
    split at h
    · cases h
      exact .inr (.inr (.inl rfl))
    · split at h
      · cases h
      · rename_i read
        cases h
        refine .inr (.inr (.inr (.inr (.inr ⟨_, _, _, ?_, read, rfl⟩))))
        simp only [List.length_cons]
        omega
  · exact .inr (.inr (.inr (.inl h)))

theorem readItems_cases {text : Codes} {items : List Value} {rest : Shorter text}
    (h : readItems text = .ok (items, rest)) :
    ∃ v tail, readValue text = .ok (v, tail) ∧ (items = [v] ∨
      ∃ after others last, after.length < text.length ∧ readItems after = .ok (others, last) ∧
        items = v :: others) := by
  unfold readItems at h
  split at h
  · cases h
  · rename_i v tail read
    refine ⟨v, tail, read, ?_⟩
    have behind := tail.2
    have skipped := length_skip_le tail.1
    split at h
    · cases h
      exact .inl rfl
    · rename_i after comma
      have shorter := length_skip_le after
      rw [comma, List.length_cons] at skipped
      split at h
      · cases h
      · rename_i others
        cases h
        exact .inr ⟨_, _, _, by omega, others, rfl⟩
    · cases h

theorem readMembers_cases {text : Codes} {members : Members} {rest : Shorter text}
    (h : readMembers text = .ok (members, rest)) :
    ∃ name inner v tail, inner.length < text.length ∧ readValue inner = .ok (v, tail) ∧
      (members = [(name, v)] ∨ ∃ after others last, after.length < text.length ∧
        readMembers after = .ok (others, last) ∧ members = (name, v) :: others) := by
  unfold readMembers at h
  split at h
  · cases h
  · rename_i name inner _
    have named := inner.2
    split at h
    · cases h
    · rename_i v tail read
      refine ⟨name, inner.1, v, tail, named, read, ?_⟩
      have behind := tail.2
      have skipped := length_skip_le tail.1
      split at h
      · cases h
        exact .inl rfl
      · rename_i after comma
        have shorter := length_skip_le after
        rw [comma, List.length_cons] at skipped
        split at h
        · cases h
        · rename_i others
          cases h
          exact .inr ⟨_, _, _, by omega, others, rfl⟩
      · cases h

theorem tidy_ofPairs {pairs : Members} (tidy : ∀ e ∈ pairs, Tidy e.2) :
    Tidy (.ofPairs pairs) := by
  refine .object (Entries.nodup_names_ofPairs pairs) fun e he => ?_
  exact tidy e ((Entries.mem_merge he).resolve_left List.not_mem_nil)

theorem tidy_of_read (text : Codes) :
    (∀ v rest, readValue text = .ok (v, rest) → Tidy v) ∧
      (∀ items rest, readItems text = .ok (items, rest) → ∀ v ∈ items, Tidy v) ∧
      ∀ members rest, readMembers text = .ok (members, rest) → ∀ e ∈ members, Tidy e.2 := by
  induction hn : text.length using Nat.strongRecOn generalizing text with
  | _ n ih =>
      subst hn
      have value : ∀ v rest, readValue text = .ok (v, rest) → Tidy v := by
        intro v rest h
        rcases readValue_cases h with ⟨s, rfl⟩ | rfl | rfl | scalar |
          ⟨inner, items, tail, shorter, read, rfl⟩ | ⟨inner, pairs, tail, shorter, read, rfl⟩
        · exact .string s
        · exact .array (by simp)
        · exact .object (by simp [Entries.names]) (by simp)
        · exact tidy_of_readScalar scalar
        · exact .array ((ih _ shorter inner rfl).2.1 items tail read)
        · exact tidy_ofPairs ((ih _ shorter inner rfl).2.2 pairs tail read)
      refine ⟨value, ?_, ?_⟩
      · intro items rest h
        obtain ⟨v, tail, read, rfl | ⟨after, others, last, shorter, more, rfl⟩⟩ := readItems_cases h
        · simpa using value v tail read
        · have tidy := (ih _ shorter after rfl).2.1 others last more
          simpa using ⟨value v tail read, tidy⟩
      · intro members rest h
        obtain ⟨name, inner, v, tail, shorter, read, rfl | ⟨after, others, last, shorter', more,
          rfl⟩⟩ := readMembers_cases h
        · simpa using (ih _ shorter inner rfl).1 v tail read
        · have tidy := (ih _ shorter' after rfl).2.2 others last more
          have head := (ih _ shorter inner rfl).1 v tail read
          rintro e he
          rcases List.mem_cons.mp he with rfl | he
          · exact head
          · exact tidy e he

theorem tidy_of_readText {text : Codes} {v : Value} (h : readText text = .ok v) : Tidy v := by
  unfold readText at h
  split at h
  · cases h
  · rename_i rest read
    split at h
    · cases h
      exact (tidy_of_read _).1 _ _ read
    · cases h

theorem tidy_of_read_eq_ok {text : Codes} {v : Value} (h : read text = .ok v) : Tidy v := by
  unfold read at h
  split at h
  · cases h
  · exact tidy_of_readText h

theorem readText_member {name inner : Codes}
    (spelt : ∀ start, readString start inner = .ok (name, [':', '1', '\x7d'])) :
    readText ('\x7b' :: '"' :: inner) = .ok (.object [(name, .ofInt 1)]) := by
  have long : 3 < inner.length := length_of_readString (spelt inner)
  have named : readName ('"' :: inner) =
      .ok (name, ⟨['1', '\x7d'], by simp only [List.length_cons, List.length_nil]; omega⟩) := by
    unfold readName
    simp only [if_true]
    split
    · rename_i h
      cases (spelt _).symm.trans h
    · rename_i h
      cases (spelt _).symm.trans h
      rfl
  have one : readValue ['1', '\x7d'] = .ok (.ofInt 1, ⟨['\x7d'], by decide⟩) := by
    unfold readValue
    rfl
  have members : readMembers ('"' :: inner) = .ok ([(name, .ofInt 1)], ⟨[], by simp⟩) := by
    unfold readMembers
    rw [named]
    dsimp only
    rw [one]
    rfl
  have object : readValue ('\x7b' :: '"' :: inner) =
      .ok (.object [(name, .ofInt 1)], ⟨[], by simp⟩) := by
    rw [readValue]
    split
    · rename_i h
      cases h
    · split
      · rename_i h
        cases members.symm.trans h
      · rename_i h
        cases members.symm.trans h
        rfl
  rw [readText]
  split
  · rename_i h
    cases object.symm.trans h
  · rename_i h
    cases object.symm.trans h
    rfl

end TableServer.Value
