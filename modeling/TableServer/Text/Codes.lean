/-! Texts of JSON. A code point is a character or a surrogate that lacks its partner; the latter
may be spelled by an escape and stand in a text, but no octets that are sent hold it. A text of
characters is taken as the text of its code points. -/
namespace TableServer

inductive CodePoint where
  | char (c : Char)
  | surrogate (place : Fin 0x800)
deriving DecidableEq

namespace CodePoint

instance : Coe Char CodePoint := ⟨char⟩

def toNat : CodePoint → Nat
  | char c => c.toNat
  | surrogate place => 0xD800 + place

def ofNat (n : Nat) : CodePoint :=
  if h : 0xD800 ≤ n ∧ n < 0xE000 then surrogate ⟨n - 0xD800, by omega⟩ else char (Char.ofNat n)

def char? : CodePoint → Option Char
  | char c => some c
  | surrogate _ => none

def isChar (c : CodePoint) : Bool :=
  c.char?.isSome

def isDigit (c : CodePoint) : Bool :=
  c.char?.any Char.isDigit

/-- The replacement character is no letter, has no case and is no mark, as a surrogate. -/
def shown (c : CodePoint) : Char :=
  c.char?.getD '\uFFFD'

instance : LT CodePoint := ⟨fun a b => a.toNat < b.toNat⟩

instance (a b : CodePoint) : Decidable (a < b) :=
  inferInstanceAs (Decidable (a.toNat < b.toNat))

theorem not_surrogate (c : Char) : ¬ (0xD800 ≤ c.toNat ∧ c.toNat < 0xE000) := by
  have code : c.toNat = c.val.toNat := rfl
  rcases c.valid with below | ⟨above, -⟩ <;> omega

theorem ofNat_toNat (c : Char) : ofNat c.toNat = .char c := by
  rw [ofNat, dif_neg (not_surrogate c), Char.ofNat_toNat]

@[simp] theorem shown_char (c : Char) : shown (.char c) = c :=
  rfl

end CodePoint

abbrev Codes := List CodePoint

namespace Codes

def ofChars (text : List Char) : Codes :=
  text.map .char

def ofString (text : String) : Codes :=
  ofChars text.toList

instance : Coe String Codes := ⟨ofString⟩

def chars? (text : Codes) : Option (List Char) :=
  text.mapM CodePoint.char?

def string? (text : Codes) : Option String :=
  text.chars?.map String.ofList

def shown (text : Codes) : List Char :=
  text.map CodePoint.shown

def wellFormed (text : Codes) : Bool :=
  text.all CodePoint.isChar

@[simp] theorem ofChars_nil : ofChars [] = [] :=
  rfl

@[simp] theorem ofChars_cons (c : Char) (text : List Char) :
    ofChars (c :: text) = .char c :: ofChars text :=
  rfl

@[simp] theorem ofChars_append (text more : List Char) :
    ofChars (text ++ more) = ofChars text ++ ofChars more :=
  List.map_append

theorem ofChars_eq_append_iff {text : List Char} {front rest : Codes} :
    ofChars text = front ++ rest ↔
      ∃ before behind, text = before ++ behind ∧ ofChars before = front ∧ ofChars behind = rest :=
  List.map_eq_append_iff

@[simp] theorem length_ofChars (text : List Char) : (ofChars text).length = text.length :=
  List.length_map _

@[simp] theorem ofChars_inj {text other : List Char} :
    ofChars text = ofChars other ↔ text = other :=
  List.map_inj_right fun _ _ h => CodePoint.char.inj h

@[simp] theorem ofString_ofList (text : List Char) :
    ofString (String.ofList text) = ofChars text := by
  rw [ofString, String.toList_ofList]

@[simp] theorem length_ofString (text : String) : (ofString text).length = text.length := by
  rw [ofString, length_ofChars, String.length_toList]

@[simp] theorem ofString_inj {text other : String} :
    ofString text = ofString other ↔ text = other := by
  rw [ofString, ofString, ofChars_inj, String.toList_inj]

@[simp] theorem chars?_ofChars (text : List Char) : chars? (ofChars text) = some text := by
  induction text with
  | nil => rfl
  | cons c rest ih =>
      unfold chars? at ih ⊢
      rw [ofChars_cons, List.mapM_cons, ih]
      rfl

@[simp] theorem shown_nil : shown [] = [] :=
  rfl

@[simp] theorem shown_cons (c : CodePoint) (text : Codes) :
    shown (c :: text) = c.shown :: text.shown :=
  rfl

@[simp] theorem shown_append (text more : Codes) :
    shown (text ++ more) = text.shown ++ more.shown :=
  List.map_append

@[simp] theorem shown_ofChars (text : List Char) : (ofChars text).shown = text := by
  simp [shown, ofChars, Function.comp_def]

@[simp] theorem shown_ofString (text : String) : (ofString text).shown = text.toList :=
  shown_ofChars _

@[simp] theorem wellFormed_ofChars (text : List Char) : (ofChars text).wellFormed = true := by
  simp [wellFormed, ofChars, CodePoint.isChar, CodePoint.char?]

@[simp] theorem wellFormed_ofString (text : String) : (ofString text).wellFormed = true :=
  wellFormed_ofChars _

@[simp] theorem wellFormed_append (text more : Codes) :
    wellFormed (text ++ more) = (wellFormed text && wellFormed more) :=
  List.all_append

end Codes

end TableServer
