import TableServer.Value.SyntaxFault

/-! Strings of JSON texts: escapes, pairs of surrogate escapes, and the closing quote. -/
namespace TableServer.Value

def hexValue? : CodePoint → Option Nat
  | .char c =>
      if '0' ≤ c ∧ c ≤ '9' then some (c.toNat - 48)
      else if 'a' ≤ c ∧ c ≤ 'f' then some (c.toNat - 87)
      else if 'A' ≤ c ∧ c ≤ 'F' then some (c.toNat - 55)
      else none
  | .surrogate _ => none

/-- Four hexadecimal digits, which some character has to follow. -/
def readHex? : Codes → Option (Nat × Codes)
  | a :: b :: c :: d :: e :: rest =>
      match hexValue? a, hexValue? b, hexValue? c, hexValue? d with
      | some a, some b, some c, some d =>
          some (((a * 16 + b) * 16 + c) * 16 + d, e :: rest)
      | _, _, _, _ => none
  | _ => none

def isHighSurrogate (n : Nat) : Bool :=
  0xD800 ≤ n && n < 0xDC00

def isLowSurrogate (n : Nat) : Bool :=
  0xDC00 ≤ n && n < 0xE000

def readLowSurrogate? : Codes → Option (Nat × Codes)
  | '\\' :: 'u' :: rest =>
      match readHex? rest with
      | some (n, tail) => if isLowSurrogate n then some (n, tail) else none
      | none => none
  | _ => none

def simpleEscape? : CodePoint → Option Char
  | '"' => some '"'
  | '\\' => some '\\'
  | '/' => some '/'
  | 'b' => some '\x08'
  | 'f' => some '\x0c'
  | 'n' => some '\n'
  | 'r' => some '\r'
  | 't' => some '\t'
  | _ => none

/-- The code point written after a backslash; a surrogate without its partner stays. `start` is the
text from the opening quote on. -/
def readEscape (start : Codes) : Codes → Except ReadFault (CodePoint × Codes)
  | [] => .error (.malformed .unterminatedString start)
  | c :: rest =>
      if c = 'u' then
        match readHex? rest with
        | none => .error (.malformed .unicodeEscape (c :: rest))
        | some (n, tail) =>
            if isHighSurrogate n then
              match readLowSurrogate? tail with
              | some (low, after) =>
                  .ok (.char (Char.ofNat (0x10000 + (n - 0xD800) * 0x400 + (low - 0xDC00))), after)
              | none => .ok (.ofNat n, tail)
            else .ok (.ofNat n, tail)
      else
        match simpleEscape? c with
        | some e => .ok (.char e, rest)
        | none => .error (.malformed .unknownEscape (.char '\\' :: c :: rest))

theorem length_of_readHex {text tail : Codes} {n : Nat} (h : readHex? text = some (n, tail)) :
    tail.length < text.length := by
  unfold readHex? at h
  split at h
  · split at h
    · simp only [Option.some.injEq, Prod.mk.injEq] at h
      rw [← h.2]
      simp
    · simp at h
  · simp at h

theorem length_of_readLowSurrogate {text tail : Codes} {n : Nat}
    (h : readLowSurrogate? text = some (n, tail)) : tail.length < text.length := by
  unfold readLowSurrogate? at h
  split at h
  · split at h
    · rename_i hex
      split at h
      · simp only [Option.some.injEq, Prod.mk.injEq] at h
        have := length_of_readHex hex
        rw [← h.2]
        simp
        omega
      · simp at h
    · simp at h
  · simp at h

theorem length_of_readEscape {start text tail : Codes} {c : CodePoint}
    (h : readEscape start text = .ok (c, tail)) : tail.length < text.length := by
  unfold readEscape at h
  split at h
  · simp at h
  · split at h
    · split at h
      · simp at h
      · rename_i hex
        have shorter := length_of_readHex hex
        split at h
        · split at h
          · rename_i low
            have := length_of_readLowSurrogate low
            simp only [Except.ok.injEq, Prod.mk.injEq] at h
            rw [← h.2]
            simp
            omega
          · simp only [Except.ok.injEq, Prod.mk.injEq] at h
            rw [← h.2]
            simp
            omega
        · simp only [Except.ok.injEq, Prod.mk.injEq] at h
          rw [← h.2]
          simp
          omega
    · split at h
      · simp only [Except.ok.injEq, Prod.mk.injEq] at h
        rw [← h.2]
        simp
      · simp at h

def readString (start text : Codes) : Except ReadFault (Codes × Codes) :=
  match text with
  | [] => .error (.malformed .unterminatedString start)
  | c :: rest =>
      if c = '"' then .ok ([], rest)
      else if c = '\\' then
        match h : readEscape start rest with
        | .error fault => .error fault
        | .ok (e, tail) =>
            have : tail.length < rest.length := length_of_readEscape h
            (readString start tail).map fun p => (e :: p.1, p.2)
      else if c.toNat < 32 then .error (.malformed .controlCharacter (c :: rest))
      else (readString start rest).map fun p => (c :: p.1, p.2)
termination_by text.length
decreasing_by
  · simp
    omega
  · simp

theorem map_eq_ok {ε α β : Type} {f : α → β} {x : Except ε α} {y : β} (h : x.map f = .ok y) :
    ∃ a, x = .ok a ∧ f a = y := by
  cases x with
  | error e => simp [Except.map] at h
  | ok a => exact ⟨a, rfl, by simpa [Except.map] using h⟩

theorem length_of_readString {start text : Codes} :
    ∀ {p : Codes × Codes}, readString start text = .ok p → p.2.length < text.length := by
  fun_induction readString start text with
  | case1 => simp
  | case2 =>
      intro p h
      simp only [Except.ok.injEq] at h
      simp [← h]
  | case3 => simp
  | case4 rest e tail h shorter _ ih =>
      intro p hp
      obtain ⟨q, hq, rfl⟩ := map_eq_ok hp
      have := ih hq
      simp
      omega
  | case5 => simp
  | case6 c rest _ _ _ ih =>
      intro p hp
      obtain ⟨q, hq, rfl⟩ := map_eq_ok hp
      have := ih hq
      simp
      omega

end TableServer.Value
