import CheckedSelect.Floating.Shortest

/-!
# CheckedSelect.Floating.Layout

How shortest digits are laid out as text: positionally, or as one digit, a fraction and an
exponent. A `FloatLayout` holds the decisions of one output format.
-/

namespace CheckedSelect

structure FloatLayout where
  /-- Which of two equally near digits is taken. -/
  tie : Tie
  /-- Whether a number is written positionally, by the exponent of its first digit. -/
  positional : Int → Bool
  /-- What follows the digits of a whole number that is written positionally. -/
  wholeSuffix : List Char
  /-- The text of infinities and NaNs. -/
  nonFinite : List Char

namespace DecimalDigits

def chars (d : DecimalDigits) : List Char := Nat.toDigits 10 d.coefficient

/-- The power of ten of the first digit. -/
def leading (d : DecimalDigits) : Int := d.chars.length - 1 + d.exponent

/-- Without an exponent: zeros fill the places up to or down from the point. -/
def positional (d : DecimalDigits) (wholeSuffix : List Char) : List Char :=
  match d.exponent with
  | .ofNat zeros => d.chars ++ List.replicate zeros '0' ++ wholeSuffix
  | .negSucc n =>
    let places := n + 1
    let chars := List.replicate (places + 1 - d.chars.length) '0' ++ d.chars
    chars.take (chars.length - places) ++ '.' :: chars.drop (chars.length - places)

/-- One digit, the others after a point, and a signed exponent. -/
def scientific (d : DecimalDigits) : List Char :=
  let mantissa := match d.chars with
    | first :: second :: rest => first :: '.' :: second :: rest
    | short => short
  let sign := if d.leading < 0 then '-' else '+'
  mantissa ++ 'e' :: sign :: Nat.toDigits 10 d.leading.natAbs

end DecimalDigits

namespace FloatLayout

def write {f : FloatFormat} (layout : FloatLayout) (x : Floating f) : List Char :=
  if x.isFinite then
    let d := x.digits layout.tie
    let body :=
      if layout.positional d.leading then d.positional layout.wholeSuffix else d.scientific
    if x.negative then '-' :: body else body
  else layout.nonFinite

/-- Numbers in a statement: no exponent ever, a whole number without a point, a half away from
zero. Infinities and NaNs have no literal and become a null. -/
def sql : FloatLayout where
  tie := .away
  positional := fun _ => true
  wholeSuffix := []
  nonFinite := "NULL".toList

/-- Where documents go without an exponent: from the first exponent up to the second, which is
excluded. The narrow format starts a place further down and stops three places earlier. -/
def jsonRange (f : FloatFormat) : Int × Int :=
  if f = .binary32 then (-6, 13) else (-5, 16)

/-- Numbers in a document: exponents outside the range of their format, a whole number with one
zero place, a half to the even digit. -/
def json (f : FloatFormat) : FloatLayout where
  tie := .even
  positional := fun e => (jsonRange f).1 ≤ e && e < (jsonRange f).2
  wholeSuffix := ".0".toList
  nonFinite := "null".toList

end FloatLayout

end CheckedSelect
