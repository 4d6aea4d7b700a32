import TableServer.Text.Quoted
import TableServer.Text.Utf8

/-! Texts as octets. ASCII carries few characters; UTF-8 carries all of them, but no surrogates. -/
namespace TableServer.Text

/-- The first code points of a text that an encoding does not carry: one of them, where it stands,
and how many follow each other. -/
structure EncodeFault where
  codec : String
  reason : String
  first : CodePoint
  start : Nat
  count : Nat
deriving DecidableEq

def EncodeFault.message (f : EncodeFault) : String :=
  let subject :=
    if f.count = 1 then
      "character '" ++ String.ofList (escapeHidden f.first) ++ "' in position " ++ toString f.start
    else s!"characters in position {f.start}-{f.start + f.count - 1}"
  s!"'{f.codec}' codec can't encode {subject}: {f.reason}"

def checkCarried (codec reason : String) (carries : CodePoint → Bool) (text : Codes) :
    Except EncodeFault Unit :=
  match text.dropWhile carries with
  | [] => .ok ()
  | c :: rest =>
      .error ⟨codec, reason, c, (text.takeWhile carries).length,
        ((c :: rest).takeWhile fun c => !carries c).length⟩

def isAscii (c : CodePoint) : Bool :=
  c.toNat < 128

def checkAscii (text : Codes) : Except EncodeFault Unit :=
  checkCarried "ascii" "ordinal not in range(128)" isAscii text

def octetsOf (text : Codes) : Octets :=
  encodeUtf8 (String.ofList (text.filterMap CodePoint.char?))

def encode (text : Codes) : Except EncodeFault Octets :=
  (checkCarried "utf-8" "surrogates not allowed" CodePoint.isChar text).map fun _ => octetsOf text

end TableServer.Text
