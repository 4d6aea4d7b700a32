import TableServer.Value.SyntaxFault

/-! Numbers of JSON texts. -/
namespace TableServer.Value

def splitSign : Codes → Bool × Codes
  | '-' :: rest => (true, rest)
  | '+' :: rest => (false, rest)
  | text => (false, text)

def digitsNumber (digits : Codes) : Nat :=
  Number.ofDigits (digits.map fun c => c.toNat - 48)

/-- The digits before the point: a lone zero, or digits that start with another one. -/
def scanWhole : Codes → Codes × Codes
  | c :: rest =>
      if c = '0' then (['0'], rest)
      else ((c :: rest).takeWhile CodePoint.isDigit, (c :: rest).dropWhile CodePoint.isDigit)
  | [] => ([], [])

def scanFraction : Codes → Codes × Codes
  | '.' :: rest =>
      if (rest.takeWhile CodePoint.isDigit).isEmpty then ([], '.' :: rest)
      else (rest.takeWhile CodePoint.isDigit, rest.dropWhile CodePoint.isDigit)
  | text => ([], text)

def scanExponent? : Codes → Option (Int × Codes)
  | c :: rest =>
      if c = 'e' ∨ c = 'E' then
        let sign := splitSign rest
        let ds := sign.2.takeWhile CodePoint.isDigit
        if ds.isEmpty then none
        else some (Number.signed sign.1 (digitsNumber ds),
          sign.2.dropWhile CodePoint.isDigit)
      else none
  | [] => none

def scanMinus : Codes → Bool × Codes
  | '-' :: rest => (true, rest)
  | text => (false, text)

/-- A number without fraction and exponent is an integer, any other is a double. -/
def readNumber (text : Codes) : Except ReadFault (Number × Codes) :=
  let negative := (scanMinus text).1
  let whole := (scanWhole (scanMinus text).2).1
  let rest := (scanWhole (scanMinus text).2).2
  let fraction := (scanFraction rest).1
  let digits := digitsNumber (whole ++ fraction)
  if whole.isEmpty then .error (.malformed .expectedValue text)
  else
    match scanExponent? (scanFraction rest).2 with
    | some (e, tail) => .ok (.double (Double.ofDecimal negative digits (e - fraction.length)), tail)
    | none =>
        if !fraction.isEmpty then
          .ok (.double (Double.ofDecimal negative digits (-fraction.length)), (scanFraction rest).2)
        else if Number.digitLimit < whole.length then .error (.integerTooLong whole.length)
        else .ok (.integer (Number.signed negative digits), (scanFraction rest).2)

theorem length_scanMinus_le (text : Codes) : (scanMinus text).2.length ≤ text.length := by
  unfold scanMinus
  split <;> simp

theorem length_scanWhole (text : Codes) :
    (scanWhole text).1.length + (scanWhole text).2.length = text.length := by
  unfold scanWhole
  split
  · split
    · simp
      omega
    · rw [← List.length_append, List.takeWhile_append_dropWhile]
  · rfl

theorem length_scanFraction_le (text : Codes) :
    (scanFraction text).2.length ≤ text.length := by
  unfold scanFraction
  split
  · split
    · simp
    · rename_i rest _
      have := (List.dropWhile_sublist CodePoint.isDigit (l := rest)).length_le
      simp
      omega
  · simp

theorem length_splitSign_le (text : Codes) :
    (splitSign text).2.length ≤ text.length := by
  unfold splitSign
  split <;> simp

theorem length_of_scanExponent {text tail : Codes} {e : Int}
    (h : scanExponent? text = some (e, tail)) : tail.length ≤ text.length := by
  unfold scanExponent? at h
  split at h
  · rename_i c rest
    split at h
    · dsimp only at h
      split at h
      · simp at h
      · simp only [Option.some.injEq, Prod.mk.injEq] at h
        have a := length_splitSign_le rest
        have b := (List.dropWhile_sublist CodePoint.isDigit (l := (splitSign rest).2)).length_le
        rw [← h.2]
        simp
        omega
    · simp at h
  · simp at h

theorem length_of_readNumber {text tail : Codes} {n : Number}
    (h : readNumber text = .ok (n, tail)) : tail.length < text.length := by
  have hm := length_scanMinus_le text
  have hw := length_scanWhole (scanMinus text).2
  have hf := length_scanFraction_le (scanWhole (scanMinus text).2).2
  unfold readNumber at h
  dsimp only at h
  split at h
  · simp at h
  · rename_i nonempty
    have hpos : 0 < (scanWhole (scanMinus text).2).1.length := by
      rw [List.isEmpty_iff] at nonempty
      exact List.length_pos_iff.mpr nonempty
    split at h
    · rename_i he
      have := length_of_scanExponent he
      simp only [Except.ok.injEq, Prod.mk.injEq] at h
      rw [← h.2]
      omega
    · split at h
      · simp only [Except.ok.injEq, Prod.mk.injEq] at h
        rw [← h.2]
        omega
      · split at h
        · simp at h
        · simp only [Except.ok.injEq, Prod.mk.injEq] at h
          rw [← h.2]
          omega

end TableServer.Value
