import TableServer.Value.Basic
import TableServer.Value.StringReader
import TableServer.Value.NumberReader

/-! Values read from JSON text. Each reader returns the text behind what it read, which is
strictly shorter. -/
namespace TableServer.Value

abbrev Shorter (text : Codes) := { rest : Codes // rest.length < text.length }

def words : List (String × Value) :=
  [("null", .null), ("true", .bool true), ("false", .bool false),
   ("NaN", .number (.double .nan)), ("Infinity", .number (.double (.infinite false))),
   ("-Infinity", .number (.double (.infinite true)))]

def readWord? (text : Codes) : List (String × Value) → Option (Value × Codes)
  | [] => none
  | (word, v) :: rest =>
      if (word : Codes).isPrefixOf text then some (v, text.drop word.length) else readWord? text rest

theorem length_of_readWord {text tail : Codes} {v : Value}
    (h : readWord? text words = some (v, tail)) :
    tail.length < text.length := by
  have shorter : ∀ (k : Nat) (cs : Codes), cs.isPrefixOf text = true → cs.length = k → 0 < k →
      (text.drop k).length < text.length := by
    intro k cs hp hl hk
    have := (List.isPrefixOf_iff_prefix.mp hp).length_le
    simp
    omega
  simp only [readWord?, words] at h
  repeat' split at h
  all_goals
    first
    | (rename_i hp
       simp only [Option.some.injEq, Prod.mk.injEq] at h
       rw [← h.2]
       exact shorter _ _ hp (by decide) (by decide))
    | simp at h

def readScalar (text : Codes) : Except ReadFault (Value × Shorter text) :=
  match h : readWord? text words with
  | some (v, rest) => .ok (v, ⟨rest, length_of_readWord h⟩)
  | none =>
      match h : readNumber text with
      | .ok (n, rest) => .ok (.number n, ⟨rest, length_of_readNumber h⟩)
      | .error fault => .error fault

def readName (text : Codes) : Except ReadFault (Codes × Shorter text) :=
  match text with
  | [] => .error (.malformed .expectedName [])
  | c :: rest =>
      if c = '"' then
        match h : readString (c :: rest) rest with
        | .error fault => .error fault
        | .ok (name, tail) =>
            have shorter : tail.length < rest.length := length_of_readString h
            match hs : skip tail with
            | ':' :: after =>
                .ok (name, ⟨skip after, by
                  have b := length_skip_le tail
                  have d := length_skip_le after
                  rw [hs] at b
                  simp at b ⊢
                  omega⟩)
            | other => .error (.malformed .expectedColon other)
      else .error (.malformed .expectedName (c :: rest))

mutual

def readValue (text : Codes) : Except ReadFault (Value × Shorter text) :=
  match text with
  | '"' :: rest =>
      match h : readString ('"' :: rest) rest with
      | .error fault => .error fault
      | .ok (cs, tail) =>
          .ok (.string cs, ⟨tail, by
            have : tail.length < rest.length := length_of_readString h
            simp
            omega⟩)
  | '[' :: rest =>
      match hs : skip rest with
      | ']' :: tail =>
          .ok (.array [], ⟨tail, by
            have := length_skip_le rest
            rw [hs] at this
            simp at this ⊢
            omega⟩)
      | other =>
          match readItems other with
          | .error fault => .error fault
          | .ok (items, tail) =>
              .ok (.array items, ⟨tail.1, by
                have := length_skip_le rest
                have := tail.2
                rw [hs] at *
                simp
                omega⟩)
  | '\x7b' :: rest =>
      match hs : skip rest with
      | '\x7d' :: tail =>
          .ok (.object [], ⟨tail, by
            have := length_skip_le rest
            rw [hs] at this
            simp at this ⊢
            omega⟩)
      | other =>
          match readMembers other with
          | .error fault => .error fault
          | .ok (pairs, tail) =>
              .ok (.ofPairs pairs, ⟨tail.1, by
                have := length_skip_le rest
                have := tail.2
                rw [hs] at *
                simp
                omega⟩)
  | other => readScalar other
termination_by (text.length, 0)
decreasing_by
  all_goals
    apply Prod.Lex.left
    have := length_skip_le rest
    rw [hs] at this
    simp
    omega

/-- Items up to the closing bracket; `text` starts at an item. -/
def readItems (text : Codes) : Except ReadFault (List Value × Shorter text) :=
  match readValue text with
  | .error fault => .error fault
  | .ok (v, rest) =>
      match hs : skip rest.1 with
      | ']' :: tail =>
          .ok ([v], ⟨tail, by
            have := length_skip_le rest.1
            have := rest.2
            rw [hs] at *
            simp at *
            omega⟩)
      | ',' :: tail =>
          match readItems (skip tail) with
          | .error fault => .error fault
          | .ok (items, after) =>
              .ok (v :: items, ⟨after.1, by
                have := length_skip_le rest.1
                have := length_skip_le tail
                have := rest.2
                have := after.2
                rw [hs] at *
                simp at *
                omega⟩)
      | other => .error (.malformed .expectedComma other)
termination_by (text.length, 1)
decreasing_by
  · apply Prod.Lex.right
    decide
  · apply Prod.Lex.left
    have := length_skip_le rest.1
    have := length_skip_le tail
    have := rest.2
    rw [hs] at *
    simp at *
    omega

/-- Members up to the closing brace; `text` starts at a name. -/
def readMembers (text : Codes) :
    Except ReadFault (Members × Shorter text) :=
  match readName text with
  | .error fault => .error fault
  | .ok (name, valueText) =>
      match readValue valueText.1 with
      | .error fault => .error fault
      | .ok (v, rest) =>
          match hs : skip rest.1 with
          | '\x7d' :: tail =>
              .ok ([(name, v)], ⟨tail, by
                have := length_skip_le rest.1
                have := valueText.2
                have := rest.2
                rw [hs] at *
                simp at *
                omega⟩)
          | ',' :: tail =>
              match readMembers (skip tail) with
              | .error fault => .error fault
              | .ok (members, after) =>
                  .ok ((name, v) :: members, ⟨after.1, by
                    have := length_skip_le rest.1
                    have := length_skip_le tail
                    have := valueText.2
                    have := rest.2
                    have := after.2
                    rw [hs] at *
                    simp at *
                    omega⟩)
          | other => .error (.malformed .expectedComma other)
termination_by (text.length, 1)
decreasing_by
  · apply Prod.Lex.left
    exact valueText.2
  · apply Prod.Lex.left
    have := length_skip_le rest.1
    have := length_skip_le tail
    have := valueText.2
    have := rest.2
    rw [hs] at *
    simp at *
    omega

end

def readText (text : Codes) : Except ReadFault Value :=
  match readValue (skip text) with
  | .error fault => .error fault
  | .ok (v, rest) =>
      match skip rest.1 with
      | [] => .ok v
      | extra => .error (.malformed .extraData extra)

/-- Reads a text, which must not start with a byte order mark. -/
def read (text : Codes) : Except ReadFault Value :=
  match text with
  | '\uFEFF' :: _ => .error (.malformed .byteOrderMark text)
  | _ => readText text

end TableServer.Value
