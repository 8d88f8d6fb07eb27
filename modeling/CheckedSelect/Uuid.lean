import CheckedSelect.Text.Digits

/-!
# CheckedSelect.Uuid

Identifiers of 128 bits. They are written as 32 lower case hexadecimal digits in groups of
8, 4, 4, 4 and 12; they are read in that form, without the hyphens, in braces, or after
`urn:uuid:`, all with letters of either case.
-/

namespace CheckedSelect

structure Uuid where
  bits : BitVec 128
  deriving DecidableEq, Repr

namespace Uuid

/-- The 32 digits. -/
def digits (u : Uuid) : List Char := Text.padded 16 32 u.bits.toNat

/-- Hyphens after 8, 12, 16 and 20 digits. -/
def grouped (digits : List Char) : List Char :=
  let (a, rest) := digits.splitAt 8
  let (b, rest) := rest.splitAt 4
  let (c, rest) := rest.splitAt 4
  let (d, e) := rest.splitAt 4
  a ++ '-' :: b ++ '-' :: c ++ '-' :: d ++ '-' :: e

def text (u : Uuid) : List Char := grouped u.digits

/-- The digits of a grouped form, if its four hyphens stand in their places. -/
def ungrouped? (text : List Char) : Option (List Char) :=
  let (a, rest) := text.splitAt 8
  match rest with
  | '-' :: rest =>
    let (b, rest) := rest.splitAt 4
    match rest with
    | '-' :: rest =>
      let (c, rest) := rest.splitAt 4
      match rest with
      | '-' :: rest =>
        let (d, rest) := rest.splitAt 4
        match rest with
        | '-' :: e => some (a ++ b ++ c ++ d ++ e)
        | _ => none
      | _ => none
    | _ => none
  | _ => none

def ofDigits? (digits : List Char) : Option Uuid :=
  if digits.length = 32 then (Text.hex? digits).map fun n => ⟨BitVec.ofNat 128 n⟩ else none

def urnPrefix : List Char := "urn:uuid:".toList

/-- The four accepted forms are told apart by length. -/
def ofText? (text : List Char) : Option Uuid :=
  match text.length with
  | 32 => ofDigits? text
  | 36 => (ungrouped? text).bind ofDigits?
  | 38 =>
    match text with
    | '\x7b' :: rest =>
      if rest.getLast? = some '\x7d' then (ungrouped? rest.dropLast).bind ofDigits? else none
    | _ => none
  | 45 =>
    if (text.take urnPrefix.length).map Char.toLower = urnPrefix then
      (ungrouped? (text.drop urnPrefix.length)).bind ofDigits?
    else none
  | _ => none

end Uuid

end CheckedSelect
