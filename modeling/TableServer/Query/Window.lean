import TableServer.Failure
import TableServer.Text.Blank
import TableServer.Text.Digit
import TableServer.Text.Parts
import TableServer.Number.Reader

/-! Windows of rows: an offset and a limit, told by counts, by an inclusive range, or by a range
header. -/
namespace TableServer

structure Window where
  offset : Option Nat
  limit : Option Nat
deriving DecidableEq

namespace Window

def whole : Window :=
  ⟨none, none⟩

def apply {α : Type} (w : Window) (rows : List α) : List α :=
  let rest := rows.drop (w.offset.getD 0)
  match w.limit with
  | none => rest
  | some limit => rest.take limit

def readCount (key : String) (text : List Char) : Outcome Nat :=
  match Number.readInteger text with
  | .error _ =>
      .error (.malformed
        ("\"" ++ key ++ "\" must be an integer, got \"" ++ String.ofList text ++ "\""))
  | .ok n =>
      if n < 0 then .error (.malformed ("\"" ++ key ++ "\" must not be negative"))
      else .ok n.toNat

/-- The two ends of a range, as digits of any script. The second may be missing. -/
structure RangeText where
  first : List Char
  last : List Char

def rangeText? (text : List Char) : Option RangeText :=
  let body := text.dropWhile Text.isBlank
  let first := body.takeWhile Text.isDecimal
  match body.dropWhile Text.isDecimal with
  | '-' :: rest =>
      let last := rest.takeWhile Text.isDecimal
      if first.isEmpty || !(rest.dropWhile Text.isDecimal).all Text.isBlank then none
      else some ⟨first, last⟩
  | _ => none

def readDigits (digits : List Char) : Outcome Nat :=
  match Number.readInteger digits with
  | .ok n => .ok n.toNat
  | .error cause => .error (.fault (.integer cause digits))

/-- A range is inclusive at both ends and does not go backwards. -/
def ofRange (text : List Char) (r : RangeText) : Outcome Window := do
  let first ← readDigits r.first
  if r.last.isEmpty then return ⟨some first, none⟩
  let last ← readDigits r.last
  if last < first then
    .error (.malformed ("Invalid Range header \"" ++ String.ofList text ++ "\""))
  else return ⟨some first, some (last - first + 1)⟩

/-- Reads a range header such as `0-9` or `items=0-9`; an empty one tells nothing. -/
def readHeader (header : Option String) : Outcome Window :=
  match (header.getD "").toList with
  | [] => .ok whole
  | text =>
      match rangeText? ((Text.dropStart? "items=".toList text).getD text) with
      | none => .error (.malformed ("Invalid Range header \"" ++ String.ofList text ++ "\""))
      | some r => ofRange text r

def readRange (key : String) (text : List Char) : Outcome Window :=
  let refused : Outcome Window :=
    .error (.malformed ("\"" ++ key ++ "\" must look like \"<from>-<to>\", got \"" ++
      String.ofList text ++ "\""))
  match rangeText? text with
  | none => refused
  | some r => if r.last.isEmpty then refused else ofRange text r

end Window

end TableServer
