import CheckedSelect.Text.Digits

/-!
# CheckedSelect.Decimal

Decimal numbers `mantissa / 10 ^ scale` with a sign, a mantissa below 96 bits and at most 28
places. The places are part of the number's text, so `1.50` and `1.5` are written apart though
they are equal in value, and so is the sign of a zero.

* `Decimal.text`, `Decimal.agrees` - the text and equality of value;
* `Decimal.ofText?` - plain or scientific notation, rounded to what fits.
-/

namespace CheckedSelect

structure Decimal where
  negative : Bool
  mantissa : Nat
  scale : Nat
  mantissa_lt : mantissa < Nat.pow 2 96
  scale_le : scale ≤ 28
  deriving DecidableEq, Repr

namespace Decimal

def mantissaLimit : Nat := Nat.pow 2 96

def maxScale : Nat := 28

/-- Leading digits below this are read in a 64 bit word, with room for one more digit. -/
def wordLimit : Nat := (Nat.pow 2 64 - 1) / 10 - 255

def ofParts? (negative : Bool) (mantissa scale : Nat) : Option Decimal :=
  if h : mantissa < Nat.pow 2 96 ∧ scale ≤ 28 then
    some ⟨negative, mantissa, scale, h.1, h.2⟩
  else none

def make? (mantissa : Int) (scale : Nat) : Option Decimal :=
  ofParts? (mantissa < 0) mantissa.natAbs scale

/-- The mantissa with its sign. -/
def signed (d : Decimal) : Int := if d.negative then -d.mantissa else d.mantissa

/-- All places are written, trailing zeros too. -/
def text (d : Decimal) : List Char :=
  let digits := Text.padded 10 (d.scale + 1) d.mantissa
  let whole := digits.take (digits.length - d.scale)
  let places := digits.drop (digits.length - d.scale)
  let body := if d.scale = 0 then whole else whole ++ '.' :: places
  if d.negative then '-' :: body else body

/-- Equality of value. -/
def agrees (a b : Decimal) : Bool :=
  a.signed * Int.pow 10 b.scale == b.signed * Int.pow 10 a.scale

/-- What has been read of a plain number. -/
structure Progress where
  mantissa : Nat
  scale : Nat
  pointSeen : Bool
  digitSeen : Bool

/-- The last place goes up by one; a mantissa that leaves its range that way gives up a place. -/
def roundedUp? (p : Progress) : Option (Nat × Nat) :=
  if p.mantissa + 1 < mantissaLimit then some (p.mantissa + 1, p.scale)
  else if p.scale = 0 then none
  else some ((p.mantissa + 5) / 10, p.scale - 1)

/-- The digit that decides the rounding. In general it is the first one left; while all but the
last digit read fit a word, a `_` right after that digit already stands for a zero. -/
def roundingDigit? (p : Progress) (rest : List Char) : Option Char :=
  if p.mantissa / 10 < wordLimit then rest.head?.filter Char.isDigit
  else rest.find? Char.isDigit

/-- The places that do not fit: only digits and `_`, rounded half up. -/
def finished? (p : Progress) (rest : List Char) : Option (Nat × Nat) :=
  if rest.all fun c => c.isDigit || c = '_' then
    if (roundingDigit? p rest).any ('5' ≤ ·) then roundedUp? p else some (p.mantissa, p.scale)
  else none

/-- The magnitude of an unsigned plain number: digits with at most one point, and `_` after the
first of them. A place that does not fit is rounded away, a digit before the point must fit. -/
def magnitude? (p : Progress) : List Char → Option (Nat × Nat)
  | [] => if p.digitSeen then some (p.mantissa, p.scale) else none
  | c :: rest =>
    if p.pointSeen && p.scale == maxScale then finished? p (c :: rest)
    else if c.isDigit then
      let mantissa := 10 * p.mantissa + (c.toNat - '0'.toNat)
      if mantissa < mantissaLimit then
        let scale := if p.pointSeen then p.scale + 1 else p.scale
        magnitude? { p with mantissa, scale, digitSeen := true } rest
      else if p.pointSeen then finished? p (c :: rest)
      else none
    else if c = '.' && !p.pointSeen then magnitude? { p with pointSeen := true } rest
    else if c = '_' && p.digitSeen then magnitude? p rest
    else none

/-- Zero is read without its sign. -/
def plain? (text : List Char) : Option Decimal :=
  let start : Progress := ⟨0, 0, false, false⟩
  match text with
  | '-' :: rest => (magnitude? start rest).bind fun (m, scale) => make? (-m) scale
  | '+' :: rest => (magnitude? start rest).bind fun (m, scale) => make? m scale
  | _ => (magnitude? start text).bind fun (m, scale) => make? m scale

/-- A quotient by `10 ^ places`, a half upwards. -/
def dropPlaces (mantissa places : Nat) : Nat :=
  (mantissa + Nat.pow 10 places / 2) / Nat.pow 10 places

/-- The same digits with the point moved by an exponent. To the left, places beyond the last one
are rounded away, and the sign stays also when nothing else does. To the right, places are used
up first, then the mantissa is multiplied. -/
def shift? (d : Decimal) (negative : Bool) (exponent : Nat) : Option Decimal :=
  if maxScale < exponent then none
  else if negative then
    if d.scale + exponent ≤ maxScale then ofParts? d.negative d.mantissa (d.scale + exponent)
    else ofParts? d.negative (dropPlaces d.mantissa (d.scale + exponent - maxScale)) maxScale
  else if exponent ≤ d.scale then ofParts? d.negative d.mantissa (d.scale - exponent)
  else ofParts? d.negative (d.mantissa * Nat.pow 10 (exponent - d.scale)) 0

/-- A whole exponent with an optional sign. -/
def exponent? (text : List Char) : Option (Bool × Nat) :=
  let all (digits : List Char) : Option Nat :=
    if digits.all Char.isDigit && !digits.isEmpty then some (Text.decimalValue digits) else none
  match text with
  | '-' :: '+' :: rest => (all rest).map (true, ·)
  | '-' :: rest => (all rest).map (true, ·)
  | '+' :: rest => (all rest).map (false, ·)
  | _ => (all text).map (false, ·)

def scientific? (text : List Char) : Option Decimal :=
  let isMark (c : Char) : Bool := c = 'e' || c = 'E'
  match text.dropWhile (!isMark ·) with
  | [] => none
  | _ :: tail => do
    let d ← plain? (text.takeWhile (!isMark ·))
    let (negative, exponent) ← exponent? tail
    d.shift? negative exponent

def ofText? (text : List Char) : Option Decimal :=
  (plain? text).or (scientific? text)

end Decimal

end CheckedSelect
