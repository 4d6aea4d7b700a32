import TableServer.Proofs.Grammar.Neutral
import TableServer.Proofs.Outcome
import TableServer.Value.Printer
import TableServer.Value.Reader
import Mathlib.Tactic.IntervalCases

/-! Literals of strings. A character stands for itself, behind a backslash, or as one or two codes
of four hexadecimal figures. Every literal of a string is read as this string, and nothing in it
ends the quotes around it early. -/
namespace TableServer

namespace Value

def smallFigures : List Char :=
  ['0', '1', '2', '3', '4', '5', '6', '7', '8', '9', 'a', 'b', 'c', 'd', 'e', 'f']

def largeFigures : List Char :=
  ['0', '1', '2', '3', '4', '5', '6', '7', '8', '9', 'A', 'B', 'C', 'D', 'E', 'F']

def HexFigure (n : Nat) (figure : Char) : Prop :=
  smallFigures[n]? = some figure ∨ largeFigures[n]? = some figure

/-- Four figures of a code, the highest one first. -/
inductive HexCode : Nat → List Char → Prop where
  | mk {k l m n : Nat} {a b c d : Char} : HexFigure k a → HexFigure l b → HexFigure m c →
      HexFigure n d → HexCode (((k * 16 + l) * 16 + m) * 16 + n) [a, b, c, d]

def shortEscapes : List (Char × Char) :=
  [('"', '"'), ('\\', '\\'), ('/', '/'), ('b', '\x08'), ('f', '\x0c'), ('n', '\n'), ('r', '\r'),
   ('t', '\t')]

/-- The ways to write a character in a literal. Controls are never written as they stand, and the
characters behind the first 65536 take a pair of codes. -/
inductive Spells (c : Char) : List Char → Prop where
  | plain : c ≠ '"' → c ≠ '\\' → 32 ≤ c.toNat → Spells c [c]
  | short {e : Char} : (e, c) ∈ shortEscapes → Spells c ['\\', e]
  | code {figures : List Char} : HexCode c.toNat figures → Spells c ('\\' :: 'u' :: figures)
  | pair {high low : Nat} {first second : List Char} : high < 0x400 → low < 0x400 →
      c.toNat = 0x10000 + high * 0x400 + low → HexCode (0xD800 + high) first →
      HexCode (0xDC00 + low) second → Spells c ('\\' :: 'u' :: (first ++ '\\' :: 'u' :: second))

def IsLiteral (s : String) (literal : List Char) : Prop :=
  ∃ pieces, List.Forall₂ Spells s.toList pieces ∧ literal = '"' :: (pieces.flatten ++ ['"'])

theorem plain_of_hexValue? {c : CodePoint} {n : Nat} (value : hexValue? c = some n) :
    c ≠ '"' ∧ c ≠ '\\' := by
  constructor <;> rintro rfl <;> cases value

namespace HexFigure

variable {n : Nat} {figure : Char}

theorem hexValue?_eq (h : HexFigure n figure) : hexValue? figure = some n := by
  have few : n < 16 := by
    rcases h with h | h
    · exact (List.getElem?_eq_some_iff.mp h).1
    · exact (List.getElem?_eq_some_iff.mp h).1
  rcases h with h | h <;> interval_cases n <;> cases h <;> decide

theorem plain (h : HexFigure n figure) : figure ≠ '"' ∧ figure ≠ '\\' := by
  simpa using plain_of_hexValue? h.hexValue?_eq

theorem of_hexDigit (h : n < 16) : HexFigure n (hexDigit n) := by
  refine .inl ?_
  interval_cases n <;> decide

end HexFigure

namespace HexCode

variable {n : Nat} {figures : List Char}

theorem readHex?_append (h : HexCode n figures) {rest : Codes} (more : rest ≠ []) :
    readHex? (.ofChars figures ++ rest) = some (n, rest) := by
  obtain ⟨ha, hb, hc, hd⟩ := h
  obtain ⟨e, rest, rfl⟩ := List.exists_cons_of_ne_nil more
  simp [readHex?, ha.hexValue?_eq, hb.hexValue?_eq, hc.hexValue?_eq, hd.hexValue?_eq]

theorem protected_append (h : HexCode n figures) {rest : List Char}
    (hr : Grammar.Protected rest) : Grammar.Protected (figures ++ rest) := by
  obtain ⟨ha, hb, hc, hd⟩ := h
  exact hr.prepend (by simpa using ⟨ha.plain, hb.plain, hc.plain, hd.plain⟩)

end HexCode

theorem simpleEscape?_of_mem {e c : Char} (h : (e, c) ∈ shortEscapes) :
    e ≠ 'u' ∧ simpleEscape? e = some c := by
  simp only [shortEscapes, List.mem_cons, Prod.mk.injEq, List.not_mem_nil, or_false] at h
  rcases h with ⟨rfl, rfl⟩ | ⟨rfl, rfl⟩ | ⟨rfl, rfl⟩ | ⟨rfl, rfl⟩ | ⟨rfl, rfl⟩ | ⟨rfl, rfl⟩ |
    ⟨rfl, rfl⟩ | ⟨rfl, rfl⟩ <;> decide

theorem readString_escape {start rest tail : Codes} {c : CodePoint}
    (h : readEscape start rest = .ok (c, tail)) :
    readString start (.char '\\' :: rest) = (readString start tail).map fun p => (c :: p.1, p.2) := by
  rw [readString, if_neg (by decide), if_pos rfl]
  split
  · rename_i failed
    cases h.symm.trans failed
  · rename_i read
    cases h.symm.trans read
    rfl

namespace Spells

variable {c : Char} {piece : List Char}

theorem protected_append (h : Spells c piece) {rest : List Char} (hr : Grammar.Protected rest) :
    Grammar.Protected (piece ++ rest) := by
  cases h with
  | plain quote backslash _ => exact .plain quote backslash hr
  | @short e _ => exact .escape e hr
  | code code => exact .escape 'u' (code.protected_append hr)
  | pair _ _ _ first second =>
      have behind := Grammar.Protected.escape 'u' (second.protected_append hr)
      simpa using Grammar.Protected.escape 'u' (first.protected_append behind)

theorem readString_append (h : Spells c piece) (start : Codes) {rest : Codes} (more : rest ≠ []) :
    readString start (.ofChars piece ++ rest) =
      (readString start rest).map fun p => (.char c :: p.1, p.2) := by
  cases h with
  | plain quote backslash high =>
      change readString start (.char c :: rest) = _
      rw [readString, if_neg (by simpa using quote), if_neg (by simpa using backslash),
        if_neg (show ¬(CodePoint.char c).toNat < 32 from not_lt.mpr high)]
  | @short e listed =>
      obtain ⟨other, escape⟩ := simpleEscape?_of_mem listed
      refine readString_escape ?_
      change readEscape start (.char e :: rest) = .ok (.char c, rest)
      simp [readEscape, other, escape]
  | @code figures code =>
      refine readString_escape
        (?_ : readEscape start (.char 'u' :: (Codes.ofChars figures ++ rest)) = _)
      have single : isHighSurrogate c.toNat = false := by
        have := CodePoint.not_surrogate c
        simp only [isHighSurrogate, Bool.and_eq_false_iff, decide_eq_false_iff_not]
        omega
      simp [readEscape, code.readHex?_append more, single, CodePoint.ofNat_toNat]
  | @pair high low first second few few' sum code code' =>
      rw [Codes.ofChars_cons, Codes.ofChars_cons, Codes.ofChars_append, Codes.ofChars_cons,
        Codes.ofChars_cons, List.cons_append, List.cons_append, List.append_assoc, List.cons_append,
        List.cons_append]
      refine readString_escape ?_
      have higher : isHighSurrogate (0xD800 + high) = true := by
        simp only [isHighSurrogate, Bool.and_eq_true, decide_eq_true_eq]
        omega
      have lower : isLowSurrogate (0xDC00 + low) = true := by
        simp only [isLowSurrogate, Bool.and_eq_true, decide_eq_true_eq]
        omega
      have paired : readLowSurrogate? (.char '\\' :: .char 'u' :: (Codes.ofChars second ++ rest)) =
          some (0xDC00 + low, rest) := by
        simp only [readLowSurrogate?, code'.readHex?_append more, lower, if_true]
      have whole : Char.ofNat (0x10000 + high * 0x400 + low) = c := by
        rw [← sum, Char.ofNat_toNat]
      simp [readEscape, code.readHex?_append (List.cons_ne_nil _ _), higher, paired, whole]

end Spells

theorem spells_escapeChar (c : Char) : Spells c (escapeChar c) := by
  unfold escapeChar
  split_ifs
  iterate 7
    · rename_i h
      subst h
      exact .short (by decide)
  · rename_i control
    have code : HexCode (((0 * 16 + 0) * 16 + c.toNat / 16) * 16 + c.toNat % 16)
        ['0', '0', hexDigit (c.toNat / 16), hexDigit (c.toNat % 16)] :=
      .mk (.inl rfl) (.inl rfl) (.of_hexDigit (by omega)) (.of_hexDigit (by omega))
    have whole : ((0 * 16 + 0) * 16 + c.toNat / 16) * 16 + c.toNat % 16 = c.toNat := by omega
    rw [whole] at code
    exact .code code
  · rename_i quote backslash _ _ _ _ _ shown
    exact .plain quote backslash (not_lt.mp shown)

theorem isLiteral_escaped (s : String) :
    IsLiteral s ('"' :: (s.toList.flatMap escapeChar ++ ['"'])) := by
  refine ⟨s.toList.map escapeChar, ?_, by rw [List.flatMap_def]⟩
  exact List.forall₂_map_right_iff.mpr (List.forall₂_same.mpr fun c _ => spells_escapeChar c)

variable {s : String} {literal : List Char} {pieces : List (List Char)}

theorem protected_of_spells {text : List Char} (h : List.Forall₂ Spells text pieces) :
    Grammar.Protected pieces.flatten := by
  induction h with
  | nil => exact .nil
  | cons head _ ih => exact head.protected_append ih

theorem readString_of_spells {text : List Char} (h : List.Forall₂ Spells text pieces)
    (start rest : Codes) :
    readString start (.ofChars pieces.flatten ++ .char '"' :: rest) = .ok (.ofChars text, rest) := by
  induction h with
  | nil => rw [List.flatten_nil, Codes.ofChars_nil, List.nil_append, readString, if_pos rfl]
  | cons head _ ih =>
      rw [List.flatten_cons, Codes.ofChars_append, List.append_assoc,
        head.readString_append start (by simp), ih, Except.map, Codes.ofChars_cons]

theorem skip_of_shown {c : CodePoint} (shown : isSpace c = false) (text : Codes) :
    skip (c :: text) = c :: text := by
  rw [skip, List.dropWhile_cons_of_neg (by simp [shown])]

theorem read_of_unmarked {c : CodePoint} (mark : c ≠ '\uFEFF') (text : Codes) :
    read (c :: text) = readText (c :: text) := by
  rw [read]
  intro rest marked
  exact mark (List.cons_eq_cons.mp marked).1

theorem read_of_readValue {c : CodePoint} {text : Codes} {v : Value} (shown : isSpace c = false)
    (mark : c ≠ '\uFEFF') (told : ∃ shorter, readValue (c :: text) = .ok (v, ⟨[], shorter⟩)) :
    read (c :: text) = .ok v := by
  rw [← skip_of_shown shown text] at told
  obtain ⟨shorter, told⟩ := told
  rw [read_of_unmarked mark, readText, told]
  rfl

theorem read_of_readValue_error {c : CodePoint} {text : Codes} {fault : ReadFault}
    (shown : isSpace c = false) (mark : c ≠ '\uFEFF')
    (told : readValue (c :: text) = .error fault) : read (c :: text) = .error fault := by
  rw [← skip_of_shown shown text] at told
  rw [read_of_unmarked mark, readText, told]

namespace IsLiteral

theorem neutral (h : IsLiteral s literal) : Grammar.Neutral false literal := by
  obtain ⟨pieces, spelt, rfl⟩ := h
  exact .quoted (protected_of_spells spelt) .nil

theorem readString_append (h : IsLiteral s literal) (rest : Codes) :
    ∃ inner, Codes.ofChars literal ++ rest = .char '"' :: inner ∧
      ∀ start, readString start inner = .ok (.ofString s, rest) := by
  obtain ⟨pieces, spelt, rfl⟩ := h
  exact ⟨Codes.ofChars pieces.flatten ++ .char '"' :: rest, by simp, fun start =>
    readString_of_spells spelt start rest⟩

theorem readValue_append (h : IsLiteral s literal) (rest : Codes) :
    ∃ shorter, readValue (.ofChars literal ++ rest) = .ok (.string s, ⟨rest, shorter⟩) := by
  obtain ⟨inner, opened, told⟩ := h.readString_append rest
  rw [opened]
  have read := told (.char '"' :: inner)
  refine ⟨Nat.lt_succ_of_lt (length_of_readString read), ?_⟩
  rw [readValue]
  split
  · rename_i failed
    cases read.symm.trans failed
  · rename_i told
    cases read.symm.trans told
    rfl

theorem readName_append (h : IsLiteral s literal) {c : CodePoint} (shown : isSpace c = false)
    (colon : c ≠ ':') (rest : Codes) :
    readName (.ofChars literal ++ c :: rest) = .error (.malformed .expectedColon (c :: rest)) := by
  obtain ⟨inner, opened, told⟩ := h.readString_append (c :: rest)
  rw [opened]
  have read := told (.char '"' :: inner)
  simp only [readName, if_true]
  split
  · rename_i failed
    cases read.symm.trans failed
  · rename_i told
    cases read.symm.trans told
    split
    · rename_i after
      cases (skip_of_shown shown rest).symm.trans after
      exact absurd rfl colon
    · rw [skip_of_shown shown]

theorem read_eq (h : IsLiteral s literal) : read (.ofChars literal) = .ok (.string s) := by
  have told := h.readValue_append []
  rw [List.append_nil] at told
  obtain ⟨pieces, -, rfl⟩ := h
  exact read_of_readValue (by decide) (by decide) told

end IsLiteral

end Value

end TableServer
