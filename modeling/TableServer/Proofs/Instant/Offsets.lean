import TableServer.Instant.Printer
import TableServer.Instant.Reader
import TableServer.Proofs.Number.Numeral
import TableServer.Proofs.Text.Parts

/-! Instants with offsets. All spellings of an offset are completed to one before the text is read,
and no part of a date or of a time of day is taken for an offset. -/
namespace TableServer

/-! Numbers that are written with a fixed count of digits. -/

theorem toList_padded (width n : ℕ) : (padded width n).toList =
    List.replicate (width - (Nat.toDigits 10 n).length) '0' ++ Nat.toDigits 10 n :=
  String.toList_ofList

theorem length_padded {width n : ℕ} (positive : 0 < width) (h : n < 10 ^ width) :
    (padded width n).toList.length = width := by
  have short := (Nat.length_toDigits_le_iff (by decide) positive).mpr h
  rw [toList_padded, List.length_append, List.length_replicate]
  omega

theorem isDigit_of_mem_padded {width n : ℕ} {c : Char} (h : c ∈ (padded width n).toList) :
    c.isDigit = true := by
  rw [toList_padded] at h
  rcases List.mem_append.mp h with zero | digit
  · rw [List.eq_of_mem_replicate zero]
    decide
  · exact Nat.isDigit_of_mem_toDigits (by decide) (by decide) digit

theorem digits?_padded (width n : ℕ) : Instant.digits? (padded width n).toList = some n := by
  have all : (padded width n).toList.all Char.isDigit = true :=
    List.all_eq_true.mpr fun c hc => isDigit_of_mem_padded hc
  have zeros (k : ℕ) :
      (List.replicate k '0').foldl (fun n c => 10 * n + (c.toNat - 48)) 0 = 0 := by
    induction k with
    | zero => rfl
    | succ k ih => rwa [List.replicate_succ, List.foldl_cons]
  rw [Instant.digits?, if_pos all, toList_padded, List.foldl_append, zeros]
  exact congrArg some (Nat.ofDigitChars_toDigits (by decide) (by decide))

theorem padded_two {n : ℕ} (h : n < 100) : ∃ a b, (padded 2 n).toList = [a, b] :=
  List.length_eq_two.mp (length_padded (by decide) h)

theorem exists_last_padded {width n : ℕ} (positive : 0 < width) (h : n < 10 ^ width) :
    ∃ c, (padded width n).toList.getLast? = some c ∧ c.isDigit = true := by
  have filled : (padded width n).toList ≠ [] := by
    rw [← List.length_pos_iff, length_padded positive h]
    exact positive
  exact ⟨_, List.getLast?_eq_some_getLast filled,
    isDigit_of_mem_padded (List.getLast_mem filled)⟩

namespace Date

def written (d : Date) : List Char :=
  (padded 4 d.year).toList ++
    '-' :: ((padded 2 d.month).toList ++ '-' :: (padded 2 d.day).toList)

theorem lt_of_valid {d : Date} (valid : d.valid = true) : d.month < 100 ∧ d.day < 100 := by
  simp only [Date.valid, Bool.and_eq_true, decide_eq_true_eq] at valid
  have longest : monthLength d.year d.month ≤ 31 := by
    unfold monthLength
    split <;> (try split) <;> decide
  omega

theorem length_written {d : Date} (valid : d.valid = true) (year : d.year ≤ 9999) :
    d.written.length = 10 := by
  obtain ⟨month, day⟩ := lt_of_valid valid
  have four := length_padded (by decide : 0 < 4) (by omega : d.year < 10 ^ 4)
  simp only [written, List.length_append, List.length_cons, four,
    length_padded (by decide : 0 < 2) month, length_padded (by decide : 0 < 2) day]

end Date

namespace TimeOfDay

def clock (t : TimeOfDay) : List Char :=
  (padded 2 t.hour).toList ++
    ':' :: ((padded 2 t.minute).toList ++ ':' :: (padded 2 t.second).toList)

theorem lt_of_valid {t : TimeOfDay} (valid : t.valid = true) :
    t.hour < 100 ∧ t.minute < 100 ∧ t.second < 100 := by
  simp only [TimeOfDay.valid, Bool.and_eq_true, decide_eq_true_eq] at valid
  omega

theorem length_clock {t : TimeOfDay} (valid : t.valid = true) : t.clock.length = 8 := by
  obtain ⟨hour, minute, second⟩ := lt_of_valid valid
  simp only [clock, List.length_append, List.length_cons,
    length_padded (by decide : 0 < 2) hour, length_padded (by decide : 0 < 2) minute,
    length_padded (by decide : 0 < 2) second]

/-- Texts of a time of day, without a fraction or with six digits of it. -/
inductive Written (t : TimeOfDay) : List Char → Prop where
  | whole : t.micro = 0 → Written t t.clock
  | fraction : t.micro < 1000000 → Written t (t.clock ++ '.' :: (padded 6 t.micro).toList)

namespace Written

variable {t : TimeOfDay} {text : List Char} (written : t.Written text) (valid : t.valid = true)
include written valid

theorem length_ge : 8 ≤ text.length := by
  have eight := length_clock valid
  cases written with
  | whole _ => exact eight.ge
  | fraction _ =>
      rw [List.length_append]
      omega

theorem exists_last : ∃ c, text.getLast? = some c ∧ c.isDigit = true := by
  cases written with
  | whole _ =>
      obtain ⟨c, ends, digit⟩ := exists_last_padded (by decide : 0 < 2) (lt_of_valid valid).2.2
      refine ⟨c, ?_, digit⟩
      simp only [clock, List.getLast?_append, List.getLast?_cons, ends, Option.getD_some,
        Option.some_or]
  | fraction few =>
      obtain ⟨c, ends, digit⟩ := exists_last_padded (by decide : 0 < 6) few
      refine ⟨c, ?_, digit⟩
      simp only [List.getLast?_append, List.getLast?_cons, ends, Option.getD_some, Option.some_or]

end Written

end TimeOfDay

namespace Instant

theorem readDate?_written {d : Date} (valid : d.valid = true) (year : d.year ≤ 9999) :
    readDate? d.written = some d := by
  obtain ⟨month, day⟩ := Date.lt_of_valid valid
  obtain ⟨a, b, c, e, hy⟩ : ∃ a b c e, (padded 4 d.year).toList = [a, b, c, e] := by
    have length := length_padded (by decide : 0 < 4) (by omega : d.year < 10 ^ 4)
    match (padded 4 d.year).toList, length with
    | [a, b, c, e], _ => exact ⟨a, b, c, e, rfl⟩
  obtain ⟨f, g, hm⟩ := padded_two month
  obtain ⟨i, j, hd⟩ := padded_two day
  have years := digits?_padded 4 d.year
  have months := digits?_padded 2 d.month
  have days := digits?_padded 2 d.day
  rw [hy] at years
  rw [hm] at months
  rw [hd] at days
  simp only [Date.written, hy, hm, hd, List.cons_append, List.nil_append, readDate?, years, months,
    days]

/-! Fields of a clock, read one by one. -/

variable {separated : Option Bool} {fields : List ℕ} {n left size : ℕ} {rest : List Char}

theorem readFields?_two (h : n < 100) :
    readFields? separated fields (left + 1) ((padded 2 n).toList ++ rest) size =
      let colon : Bool := rest.head? = some ':'
      let colons := separated.getD colon
      if size ≤ 3 then some ⟨fields ++ [n], 0, !ended rest⟩
      else if colons && colon then
        readFields? (some colons) (fields ++ [n]) left (rest.drop 1) (size - 3)
      else if rest.head? = some '.' ∨ rest.head? = some ',' then
        readFraction? (fields ++ [n]) (rest.drop 1) (size - 3)
      else if colons then none
      else readFields? (some colons) (fields ++ [n]) left rest (size - 2) := by
  have two := length_padded (by decide : 0 < 2) h
  have long : ¬((padded 2 n).toList ++ rest).length < 2 := by
    rw [List.length_append]
    omega
  rw [readFields?, List.take_left' two, digits?_padded, List.drop_left' two]
  simp only [if_neg long]

theorem readFields?_last (h : n < 100) (few : size ≤ 3) :
    readFields? separated fields (left + 1) ((padded 2 n).toList ++ rest) size =
      some ⟨fields ++ [n], 0, !ended rest⟩ := by
  simp only [readFields?_two h, if_pos few]

theorem readFields?_colon (h : n < 100) (many : 3 < size) (colons : separated ≠ some false) :
    readFields? separated fields (left + 1) ((padded 2 n).toList ++ ':' :: rest) size =
      readFields? (some true) (fields ++ [n]) left rest (size - 3) := by
  have separates : separated.getD true = true := by
    rcases separated with _ | _ | _
    · rfl
    · exact absurd rfl colons
    · rfl
  rw [readFields?_two h]
  simp [not_le.mpr many, separates]

theorem readFields?_fraction (h : n < 100) (many : 3 < size) :
    readFields? (some true) fields (left + 1) ((padded 2 n).toList ++ '.' :: rest) size =
      readFraction? (fields ++ [n]) rest (size - 3) := by
  rw [readFields?_two h]
  simp [not_le.mpr many]

theorem readFraction?_padded (h : n < 1000000) (apart : ∀ c ∈ rest.head?, c.isDigit = false) :
    readFraction? fields ((padded 6 n).toList ++ rest) 6 = some ⟨fields, n, !ended rest⟩ := by
  have six := length_padded (by decide : 0 < 6) h
  have kept : rest.dropWhile Char.isDigit = rest := by
    cases rest with
    | nil => rfl
    | cons c rest => exact List.dropWhile_cons_of_neg (by simp [apart c rfl])
  simp only [readFraction?, min_self, List.take_left' six, digits?_padded, Option.map_some,
    List.drop_left' six, kept]
  rw [Nat.sub_self, Nat.pow_eq, Nat.pow_zero, Nat.mul_one]

theorem readClock?_written {t : TimeOfDay} {clock : List Char} (valid : t.valid = true)
    (written : t.Written clock) {rest : List Char} (apart : ∀ c ∈ rest.head?, c.isDigit = false) :
    readClock? (clock ++ rest) clock.length =
      some ⟨[t.hour, t.minute, t.second], t.micro, !ended rest⟩ := by
  have length := TimeOfDay.length_clock valid
  obtain ⟨hour, minute, second⟩ := TimeOfDay.lt_of_valid valid
  cases written with
  | whole none =>
      rw [length, TimeOfDay.clock, readClock?]
      simp only [List.append_assoc, List.cons_append]
      rw [readFields?_colon hour (by decide) (by simp),
        readFields?_colon minute (by decide) (by simp),
        readFields?_last second (by decide), none]
      rfl
  | fraction few =>
      have size : (t.clock ++ '.' :: (padded 6 t.micro).toList).length = 15 := by
        rw [List.length_append, length, List.length_cons, length_padded (by decide) few]
      rw [size, TimeOfDay.clock, readClock?]
      simp only [List.append_assoc, List.cons_append]
      rw [readFields?_colon hour (by decide) (by simp),
        readFields?_colon minute (by decide) (by simp),
        readFields?_fraction second (by decide)]
      exact readFraction?_padded few apart

/-! Characters of clocks and of offsets. -/

def IsClockMark (c : Char) : Prop :=
  c.isDigit = true ∨ c = ':' ∨ c = '.'

theorem isClockMark_of_mem_clock {t : TimeOfDay} {c : Char} (h : c ∈ t.clock) : IsClockMark c := by
  simp only [TimeOfDay.clock, List.mem_append, List.mem_cons] at h
  rcases h with digit | colon | digit | colon | digit
  · exact .inl (isDigit_of_mem_padded digit)
  · exact .inr (.inl colon)
  · exact .inl (isDigit_of_mem_padded digit)
  · exact .inr (.inl colon)
  · exact .inl (isDigit_of_mem_padded digit)

theorem isClockMark_of_written {t : TimeOfDay} {clock : List Char} (written : t.Written clock) :
    ∀ c ∈ clock, IsClockMark c := by
  intro c hc
  cases written with
  | whole _ => exact isClockMark_of_mem_clock hc
  | fraction _ =>
      rcases List.mem_append.mp hc with whole | behind
      · exact isClockMark_of_mem_clock whole
      · rcases List.mem_cons.mp behind with point | digit
        · exact .inr (.inr point)
        · exact .inl (isDigit_of_mem_padded digit)

theorem isFigure_of_isDigit {c : Char} (h : c.isDigit = true) : IsFigure c := by
  simp only [Char.isDigit, Bool.and_eq_true, decide_eq_true_eq, UInt32.le_iff_toNat_le] at h
  exact h

theorem not_isBlank_of_mem_padded {width n : ℕ} {c : Char} (h : c ∈ (padded width n).toList) :
    Text.isBlank c = false :=
  (isFigure_of_isDigit (isDigit_of_mem_padded h)).not_isBlank

namespace IsClockMark

variable {c : Char} (h : IsClockMark c)
include h

theorem not_startsOffset : startsOffset c = false := by
  rcases h with digit | rfl | rfl
  · have figure := isFigure_of_isDigit digit
    have plus : c ≠ '+' := figure.ne_of_toNat_lt (by decide)
    have minus : c ≠ '-' := figure.ne_of_toNat_lt (by decide)
    have zulu : c ≠ 'Z' := by
      rintro rfl
      exact absurd digit (by decide)
    simp [startsOffset, plus, minus, zulu]
  · decide
  · decide

theorem not_isBlank : Text.isBlank c = false := by
  rcases h with digit | rfl | rfl
  · exact (isFigure_of_isDigit digit).not_isBlank
  · decide
  · decide

theorem toNat_lt : c.toNat < 128 := by
  rcases h with digit | rfl | rfl
  · have figure := isFigure_of_isDigit digit
    exact lt_of_le_of_lt figure.2 (by decide)
  · decide
  · decide

end IsClockMark

theorem widen_of_ascii {text : List Char} (h : ∀ c ∈ text, c.toNat < 128) : widen text = text := by
  induction text with
  | nil => rfl
  | cons c rest ih =>
      have tail := ih fun d hd => h d (List.mem_cons_of_mem c hd)
      rw [widen, List.flatMap_cons, if_pos (h c (by simp))]
      exact congrArg (c :: ·) tail

def sign (west : Bool) : Char :=
  if west then '-' else '+'

def offsetMicros (west : Bool) (hours minutes : ℕ) : ℤ :=
  let n : ℤ := ((hours * 60 + minutes) * 60000000 : ℕ)
  if west then -n else n

def fullOffset (hours minutes : ℕ) : List Char :=
  (padded 2 hours).toList ++ ':' :: (padded 2 minutes).toList

theorem isClockMark_of_mem_fullOffset {hours minutes : ℕ} {c : Char}
    (h : c ∈ fullOffset hours minutes) : IsClockMark c := by
  rcases List.mem_append.mp h with digit | behind
  · exact .inl (isDigit_of_mem_padded digit)
  · rcases List.mem_cons.mp behind with colon | digit
    · exact .inr (.inl colon)
    · exact .inl (isDigit_of_mem_padded digit)

theorem length_fullOffset {hours minutes : ℕ} (hh : hours < 24) (hm : minutes < 60) :
    (fullOffset hours minutes).length = 5 := by
  rw [fullOffset, List.length_append, List.length_cons, length_padded (by decide) (by omega),
    length_padded (by decide) (by omega)]

theorem offsetOf?_fields (west : Bool) {hours minutes : ℕ} (hh : hours < 24) (hm : minutes < 60)
    {more : Bool} : offsetOf? (sign west = '-') ⟨[hours, minutes], 0, more⟩ =
      some (offsetMicros west hours minutes) := by
  have negative : decide (sign west = '-') = west := by
    cases west <;> decide
  have micros : (Clock.time ⟨[hours, minutes], 0, more⟩).micros =
      (hours * 60 + minutes) * 60000000 := by
    change ((hours * 60 + minutes) * 60 + 0) * 1000000 + 0 = _
    omega
  have below : (((hours * 60 + minutes) * 60000000 : ℕ) : ℤ) < dayMicros := by
    rw [dayMicros]
    omega
  rw [offsetOf?, negative, micros]
  by_cases zero : hours = 0 ∧ minutes = 0
  · obtain ⟨rfl, rfl⟩ := zero
    cases west <;> rfl
  · have nonzero : ¬((Clock.time ⟨[hours, minutes], 0, more⟩).hour = 0 ∧
        (Clock.time ⟨[hours, minutes], 0, more⟩).minute = 0 ∧
        (Clock.time ⟨[hours, minutes], 0, more⟩).second = 0) :=
      fun h => zero ⟨h.1, h.2.1⟩
    rw [if_neg nonzero, if_pos below, offsetMicros]

section

variable {t : TimeOfDay} {clock : List Char} (valid : t.valid = true) (written : t.Written clock)
include valid written

theorem readTime?_bare : readTime? clock = some (t, 0) := by
  have all : clock.takeWhile (!startsOffset ·) = clock :=
    List.takeWhile_eq_self_iff.mpr fun c hc => by
      simp [(isClockMark_of_written written c hc).not_startsOffset]
  have read := readClock?_written valid written
    (by simp : ∀ c ∈ ([] : List Char).head?, c.isDigit = false)
  rw [List.append_nil] at read
  simp only [readTime?, all, read, List.drop_length]
  rfl

theorem readTime?_offset (west : Bool) {hours minutes : ℕ} (hh : hours < 24) (hm : minutes < 60) :
    readTime? (clock ++ sign west :: fullOffset hours minutes) =
      some (t, offsetMicros west hours minutes) := by
  have stops : startsOffset (sign west) = true := by
    cases west <;> decide
  have size : ((clock ++ sign west :: fullOffset hours minutes).takeWhile
      (!startsOffset ·)) = clock := by
    rw [List.takeWhile_append_of_pos fun c hc => by
      simp [(isClockMark_of_written written c hc).not_startsOffset]]
    rw [List.takeWhile_cons_of_neg (by simp [stops]), List.append_nil]
  have apart : ∀ c ∈ (sign west :: fullOffset hours minutes).head?, c.isDigit = false := by
    cases west <;> simp [sign]
  have front := readClock?_written valid written apart
  have back : readClock? (fullOffset hours minutes) (fullOffset hours minutes).length =
      some ⟨[hours, minutes], 0, false⟩ := by
    rw [length_fullOffset hh hm, fullOffset, readClock?,
      readFields?_colon (by omega) (by decide) (by simp)]
    have last : readFields? (some true) [hours] 2 ((padded 2 minutes).toList ++ []) (5 - 3) = _ :=
      readFields?_last (by omega) (by decide)
    rwa [List.append_nil] at last
  have named : sign west ≠ 'Z' := by
    cases west <;> decide
  simp only [readTime?, size, front, List.drop_left, back, if_neg named,
    offsetOf?_fields west hh hm, Bool.false_eq_true, if_false, Option.map_some]
  rfl

end

/-! Completed offsets. -/

theorem drop_back (front back : List Char) {k : ℕ} (h : k ≤ back.length) :
    (front ++ back).drop ((front ++ back).length - k) = back.drop (back.length - k) := by
  rw [List.length_append, Nat.add_sub_assoc h, List.drop_length_add_append]

theorem isOffset_sign (west : Bool) {ds : List Char} (digits : ∀ c ∈ ds, c.isDigit = true) :
    isOffset ds.length (sign west :: ds) = true := by
  cases west <;> simpa [isOffset, sign] using digits

theorem isOffset_of_marks {count : ℕ} {text : List Char} (marks : ∀ c ∈ text, IsClockMark c) :
    isOffset count text = false := by
  cases text with
  | nil => rfl
  | cons c ds =>
      have unsigned := (marks c (by simp)).not_startsOffset
      simp only [startsOffset, Bool.or_eq_false_iff] at unsigned
      rw [isOffset, unsigned.1.1, unsigned.1.2]
      rfl

theorem isOffset_of_later_sign (count : ℕ) {front : List Char} (some_front : front ≠ [])
    (west : Bool) (back : List Char) : isOffset count (front ++ sign west :: back) = false := by
  obtain ⟨c, front, rfl⟩ := List.exists_cons_of_ne_nil some_front
  have figure : (front ++ sign west :: back).all Char.isDigit = false :=
    List.all_eq_false.mpr ⟨sign west, by simp, by cases west <;> decide⟩
  rw [List.cons_append, isOffset, figure, Bool.and_false]

theorem completeOffset_zulu (front : List Char) {c : Char} (h : c = 'Z' ∨ c = 'z') :
    completeOffset (front ++ [c]) = front ++ "+00:00".toList := by
  simp [completeOffset, h]

theorem completeOffset_eq {text : List Char} {c : Char} (ends : text.getLast? = some c)
    (digit : c.isDigit = true) (long : 10 < text.length) : completeOffset text =
      if isOffset 4 (text.drop (text.length - 5)) then
        text.take (text.length - 2) ++ ':' :: text.drop (text.length - 2)
      else if isOffset 2 (text.drop (text.length - 3)) then text ++ ":00".toList
      else text := by
  have unmarked : ¬(c = 'Z' ∨ c = 'z') := by
    rintro (rfl | rfl) <;> exact absurd digit (by decide)
  simp only [completeOffset, ends, if_neg unmarked, if_neg (not_le.mpr long)]

section

variable {front : List Char} {hours minutes : ℕ}

theorem completeOffset_of_marks {back : List Char} {c : Char} (marks : ∀ c ∈ back, IsClockMark c)
    (five : 5 ≤ back.length) (ends : back.getLast? = some c) (digit : c.isDigit = true)
    (long : 10 < (front ++ back).length) : completeOffset (front ++ back) = front ++ back := by
  have last : (front ++ back).getLast? = some c := by
    rw [List.getLast?_append, ends, Option.some_or]
  have unsigned (count k : ℕ) : isOffset count (back.drop k) = false :=
    isOffset_of_marks fun c hc => marks c (List.mem_of_mem_drop hc)
  rw [completeOffset_eq last digit long, drop_back front back five,
    drop_back front back (by omega : 3 ≤ back.length)]
  simp only [unsigned, Bool.false_eq_true, if_false]

theorem completeOffset_compact (long : 10 < front.length) (west : Bool) (hh : hours < 100)
    (hm : minutes < 100) :
    completeOffset (front ++ sign west :: ((padded 2 hours).toList ++ (padded 2 minutes).toList)) =
      front ++ sign west :: fullOffset hours minutes := by
  have two := length_padded (by decide : 0 < 2) hh
  have two' := length_padded (by decide : 0 < 2) hm
  obtain ⟨c, ends, digit⟩ := exists_last_padded (by decide : 0 < 2) hm
  have digits : ∀ c ∈ (padded 2 hours).toList ++ (padded 2 minutes).toList, c.isDigit = true := by
    intro c hc
    exact (List.mem_append.mp hc).elim isDigit_of_mem_padded isDigit_of_mem_padded
  have four : ((padded 2 hours).toList ++ (padded 2 minutes).toList).length = 4 := by
    rw [List.length_append, two, two']
  have offset := isOffset_sign west digits
  rw [four] at offset
  have five := drop_back front
    (sign west :: ((padded 2 hours).toList ++ (padded 2 minutes).toList)) (k := 5)
    (by rw [List.length_cons, four])
  rw [List.length_cons, four, Nat.sub_self, List.drop_zero] at five
  have text : front ++ sign west :: ((padded 2 hours).toList ++ (padded 2 minutes).toList) =
      (front ++ sign west :: (padded 2 hours).toList) ++ (padded 2 minutes).toList := by
    rw [List.append_assoc, List.cons_append]
  have size : (front ++ sign west :: ((padded 2 hours).toList ++
      (padded 2 minutes).toList)).length - 2 =
        (front ++ sign west :: (padded 2 hours).toList).length := by
    rw [text, List.length_append, two', Nat.add_sub_cancel]
  rw [completeOffset_eq (c := c) (by rw [text, List.getLast?_append, ends, Option.some_or]) digit
    (by rw [List.length_append]; omega), five, if_pos offset, size]
  rw [text, List.take_left, List.drop_left, List.append_assoc, List.cons_append, fullOffset]

theorem completeOffset_short (long : 10 < front.length) (west : Bool) (hh : hours < 100) :
    completeOffset (front ++ sign west :: (padded 2 hours).toList) =
      front ++ sign west :: fullOffset hours 0 := by
  have two := length_padded (by decide : 0 < 2) hh
  obtain ⟨c, ends, digit⟩ := exists_last_padded (by decide : 0 < 2) hh
  have last : (front ++ sign west :: (padded 2 hours).toList).getLast? = some c := by
    rw [List.getLast?_append, List.getLast?_cons, ends]
    rfl
  have length : (front ++ sign west :: (padded 2 hours).toList).length = front.length + 3 := by
    rw [List.length_append, List.length_cons, two]
  have front_end : front.drop (front.length - 2) ≠ [] := by
    rw [← List.length_pos_iff, List.length_drop]
    omega
  have five := isOffset_of_later_sign 4 front_end west (padded 2 hours).toList
  have three := isOffset_sign west fun c (hc : c ∈ (padded 2 hours).toList) =>
    isDigit_of_mem_padded hc
  rw [two] at three
  rw [completeOffset_eq last digit (by omega), length,
    (by omega : front.length + 3 - 5 = front.length - 2), Nat.add_sub_cancel,
    List.drop_append_of_le_length (Nat.sub_le _ _), List.drop_left, five, three]
  rw [if_neg Bool.false_ne_true, if_pos rfl, List.append_assoc, List.cons_append, fullOffset]
  rfl

end

/-- A day and a time of day that exist, as they are written without an offset. -/
structure Moment where
  date : Date
  time : TimeOfDay
  separator : Char
  clock : List Char
  date_valid : date.valid = true
  year_le : date.year ≤ 9999
  time_valid : time.valid = true
  separates : separator = 'T' ∨ separator = ' '
  written : time.Written clock

namespace Moment

variable (m : Moment)

def text : List Char :=
  m.date.written ++ m.separator :: m.clock

theorem trim_text {tail : List Char} (shown : ∀ c ∈ tail, Text.isBlank c = false) :
    Text.trim (m.text ++ tail) = m.text ++ tail := by
  refine Text.Trimmed.trim_eq ⟨fun c hc => ?_, fun c hc => ?_⟩
  · obtain ⟨y, years, hy⟩ := List.exists_cons_of_length_pos
      (by rw [length_padded (by decide) (by have := m.year_le; omega)]; decide :
        0 < (padded 4 m.date.year).toList.length)
    simp only [text, Date.written, hy, List.cons_append, List.head?_cons, Option.mem_some] at hc
    subst hc
    exact (isFigure_of_isDigit (isDigit_of_mem_padded (hy ▸ List.mem_cons_self))).not_isBlank
  · obtain ⟨last, ends, digit⟩ := m.written.exists_last m.time_valid
    have behind : (m.text ++ tail).getLast? = (m.clock ++ tail).getLast? := by
      rw [text, List.append_assoc, List.cons_append, List.getLast?_append, List.getLast?_cons,
        List.getLast?_append, ends]
      cases tail.getLast? <;> rfl
    rw [behind] at hc
    rcases List.mem_append.mp (List.mem_of_mem_getLast? hc) with front | back
    · exact (isClockMark_of_written m.written c front).not_isBlank
    · exact shown c back

theorem length_text : 10 < m.text.length := by
  have long := m.written.length_ge m.time_valid
  simp only [text, List.length_append, List.length_cons,
    Date.length_written m.date_valid m.year_le]
  omega

theorem read?_of_completed {tail full : List Char} {offset : ℤ}
    (shown : ∀ c ∈ tail, Text.isBlank c = false)
    (completed : completeOffset (m.text ++ tail) = m.text ++ full)
    (ascii : ∀ c ∈ full, c.toNat < 128)
    (time : readTime? (m.clock ++ full) = some (m.time, offset)) :
    read? (m.text ++ tail) = some ⟨m.date, m.time, offset⟩ := by
  have ten := Date.length_written m.date_valid m.year_le
  have date := readDate?_written m.date_valid m.year_le
  have wide : widen (m.clock ++ full) = m.clock ++ full :=
    widen_of_ascii fun c hc => (List.mem_append.mp hc).elim
      (fun hc => (isClockMark_of_written m.written c hc).toNat_lt) (ascii c)
  have filled : (m.clock ++ full).isEmpty = false := by
    have long := m.written.length_ge m.time_valid
    cases hc : m.clock with
    | nil => simp [hc] at long
    | cons c rest => rfl
  rw [read?, m.trim_text shown, completed]
  simp only [text, List.append_assoc, List.cons_append, List.take_left' ten, date, readFull?,
    List.drop_left' ten, filled, wide, time, Bool.false_eq_true, if_false, Option.bind_some,
    m.date_valid, m.time_valid, Bool.and_self, if_true]

theorem read?_bare : read? m.text = some ⟨m.date, m.time, 0⟩ := by
  obtain ⟨c, ends, digit⟩ := m.written.exists_last m.time_valid
  have long := m.written.length_ge m.time_valid
  have kept : completeOffset (m.date.written ++ [m.separator] ++ m.clock) = _ :=
    completeOffset_of_marks (isClockMark_of_written m.written) (by omega) ends digit
      (by simp only [List.length_append, Date.length_written m.date_valid m.year_le]; omega)
  have spelt : m.text = m.date.written ++ [m.separator] ++ m.clock := by
    rw [text, List.append_assoc, List.singleton_append]
  have time := readTime?_bare m.time_valid m.written
  have read : read? (m.text ++ []) = some ⟨m.date, m.time, 0⟩ :=
    m.read?_of_completed (by simp) (by rw [List.append_nil, spelt, kept])
      (by simp : ∀ c ∈ ([] : List Char), c.toNat < 128) (by rwa [List.append_nil])
  rwa [List.append_nil] at read

section

variable (west : Bool) {hours minutes : ℕ} (hh : hours < 24) (hm : minutes < 60)
include hh hm

theorem read?_of_full {tail : List Char} (shown : ∀ c ∈ tail, Text.isBlank c = false)
    (completed : completeOffset (m.text ++ tail) =
      m.text ++ sign west :: fullOffset hours minutes) :
    read? (m.text ++ tail) = some ⟨m.date, m.time, offsetMicros west hours minutes⟩ := by
  refine m.read?_of_completed shown completed ?_
    (readTime?_offset m.time_valid m.written west hh hm)
  refine List.forall_mem_cons.mpr ⟨by cases west <;> decide, fun c hc => ?_⟩
  exact (isClockMark_of_mem_fullOffset hc).toNat_lt

theorem read?_full : read? (m.text ++ sign west :: fullOffset hours minutes) =
    some ⟨m.date, m.time, offsetMicros west hours minutes⟩ := by
  obtain ⟨c, ends, digit⟩ := exists_last_padded (by decide : 0 < 2) (by omega : minutes < 10 ^ 2)
  have last : (fullOffset hours minutes).getLast? = some c := by
    rw [fullOffset, List.getLast?_append, List.getLast?_cons, ends]
    rfl
  have spelt : m.text ++ sign west :: fullOffset hours minutes =
      m.text ++ [sign west] ++ fullOffset hours minutes := by
    rw [List.append_assoc, List.singleton_append]
  refine m.read?_of_full west hh hm ?_ ?_
  · refine List.forall_mem_cons.mpr ⟨by cases west <;> decide, fun c hc => ?_⟩
    exact (isClockMark_of_mem_fullOffset hc).not_isBlank
  · have long := m.length_text
    rw [spelt]
    refine completeOffset_of_marks (fun c hc => isClockMark_of_mem_fullOffset hc)
      (length_fullOffset hh hm).ge last digit ?_
    rw [List.length_append, List.length_append]
    omega

theorem read?_compact :
    read? (m.text ++ sign west :: ((padded 2 hours).toList ++ (padded 2 minutes).toList)) =
      some ⟨m.date, m.time, offsetMicros west hours minutes⟩ := by
  refine m.read?_of_full west hh hm ?_
    (completeOffset_compact m.length_text west (by omega) (by omega))
  refine List.forall_mem_cons.mpr ⟨by cases west <;> decide, fun c hc => ?_⟩
  exact (List.mem_append.mp hc).elim not_isBlank_of_mem_padded not_isBlank_of_mem_padded

end

theorem read?_short (west : Bool) {hours : ℕ} (hh : hours < 24) :
    read? (m.text ++ sign west :: (padded 2 hours).toList) =
      some ⟨m.date, m.time, offsetMicros west hours 0⟩ := by
  refine m.read?_of_full west hh (by decide) ?_
    (completeOffset_short m.length_text west (by omega))
  refine List.forall_mem_cons.mpr ⟨by cases west <;> decide, fun c hc => ?_⟩
  exact not_isBlank_of_mem_padded hc

theorem read?_zulu {c : Char} (h : c = 'Z' ∨ c = 'z') :
    read? (m.text ++ [c]) = some ⟨m.date, m.time, 0⟩ := by
  have shown : ∀ d ∈ [c], Text.isBlank d = false := by
    intro d hd
    rw [List.mem_singleton.mp hd]
    rcases h with rfl | rfl <;> decide
  refine m.read?_of_full false (by decide : 0 < 24) (by decide : 0 < 60) shown ?_
  rw [completeOffset_zulu m.text h, fullOffset, toList_padded]
  rfl

/-- Every spelling of an offset shifts the moment that stands before it, and all spellings of one
offset are read as one instant. -/
theorem read_offsets :
    (∀ (west : Bool) (hours minutes : ℕ), hours < 24 → minutes < 60 →
      let offset := offsetMicros west hours minutes
      let i : Instant := ⟨m.date, m.time, offset⟩
      i.epochMicros = (⟨m.date, m.time, 0⟩ : Instant).epochMicros - offset ∧
        read? (m.text ++ sign west :: fullOffset hours minutes) = some i ∧
        read? (m.text ++ sign west :: ((padded 2 hours).toList ++ (padded 2 minutes).toList)) =
          some i ∧
        (minutes = 0 → read? (m.text ++ sign west :: (padded 2 hours).toList) = some i)) ∧
    ∀ tail ∈ ["", "Z", "z", "+00", "+0000", "+00:00"],
      read? (m.text ++ tail.toList) = some ⟨m.date, m.time, 0⟩ := by
  refine ⟨fun west hours minutes hh hm => ⟨?_, ?_, ?_, ?_⟩, fun tail ht => ?_⟩
  · simp only [epochMicros, Int.sub_zero]
  · exact m.read?_full west hh hm
  · exact m.read?_compact west hh hm
  · rintro rfl
    exact m.read?_short west hh
  · have zeros : (padded 2 0).toList = ['0', '0'] := by
      rw [toList_padded]
      rfl
    have full := m.read?_full false (by decide : 0 < 24) (by decide : 0 < 60)
    have compact := m.read?_compact false (by decide : 0 < 24) (by decide : 0 < 60)
    have short := m.read?_short false (by decide : 0 < 24)
    simp only [fullOffset, zeros] at full compact short
    simp only [List.mem_cons, List.not_mem_nil, or_false] at ht
    rcases ht with rfl | rfl | rfl | rfl | rfl | rfl
    · rw [String.toList_empty, List.append_nil]
      exact m.read?_bare
    · exact m.read?_zulu (.inl rfl)
    · exact m.read?_zulu (.inr rfl)
    · exact short
    · exact compact
    · exact full

def leapNight : Moment where
  date := ⟨2024, 2, 29⟩
  time := ⟨23, 59, 59, 999998⟩
  separator := ' '
  clock := _
  date_valid := by decide
  year_le := by decide
  time_valid := by decide
  separates := .inr rfl
  written := .fraction (by decide)

theorem text_leapNight : leapNight.text = "2024-02-29 23:59:59.999998".toList := by
  simp only [text, leapNight, Date.written, TimeOfDay.clock, toList_padded]
  rfl

theorem read_offsets_of_leapNight :
    5 < 24 ∧ 30 < 60 ∧
      read? "2024-02-29 23:59:59.999998-0530".toList =
        some ⟨⟨2024, 2, 29⟩, ⟨23, 59, 59, 999998⟩, -19800000000⟩ ∧
      read? "2024-02-29 23:59:59.999998z".toList =
        some ⟨⟨2024, 2, 29⟩, ⟨23, 59, 59, 999998⟩, 0⟩ := by
  have spelt := ((leapNight.read_offsets).1 true 5 30 (by decide) (by decide)).2.2.1
  have zulu := (leapNight.read_offsets).2 "z" (by simp)
  rw [text_leapNight] at spelt zulu
  simp only [toList_padded] at spelt
  exact ⟨by decide, by decide, spelt, zulu⟩

end Moment

end Instant

end TableServer
