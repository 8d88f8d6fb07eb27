import CheckedSelect.Floating.Round
import CheckedSelect.Json.Reader

/-!
# CheckedSelect.Json.Number

Numbers in documents: their notation and their value.

A number without point and exponent is whole when it fits 64 bits. Every other number is a float,
and is read with limited precision: the digits that fit 64 bits make a float, which is then
multiplied or divided once by a power of ten, so the last bit may differ from that of the nearest
float. Below the least power of ten it is divided twice or more.

* `NumberText` - a number as it is written; `numberText` reads one;
* `NumberText.value?` - the number meant, if it is not too large.
-/

namespace CheckedSelect.Json

/-! ## Notation -/

structure NumberText where
  negative : Bool
  whole : List Char
  /-- The digits after the point, if there is one. -/
  fraction : Option (List Char)
  /-- Sign and digits of the exponent, if there is one. -/
  exponent : Option (Bool × List Char)
  deriving DecidableEq, Repr

def isNumberStart (c : Char) : Bool := c = '-' || c.isDigit

/-- At least one digit. `cut` is the error when the text ends before it. -/
def digits (cut : ReadError) : Reader (List Char) := fun text =>
  match text.takeWhile Char.isDigit with
  | [] => .error (if text.isEmpty then cut else .malformed)
  | found => .ok (found, text.dropWhile Char.isDigit)

/-- Take the next character if it is one of these. -/
def take? (accepted : Char → Bool) : Reader (Option Char) := fun text =>
  match text with
  | [] => .ok (none, [])
  | c :: rest => if accepted c then .ok (some c, rest) else .ok (none, c :: rest)

/-- The digits before the point. Only the number zero begins with a zero. -/
def wholePart (cut : ReadError) : Reader (List Char) := do
  let found ← digits cut
  if found.head? = some '0' ∧ found ≠ ['0'] then malformed else return found

def fractionPart (cut : ReadError) : Reader (Option (List Char)) := do
  let point ← take? (· = '.')
  if point.isSome then some <$> digits cut else return none

def exponentPart (cut : ReadError) : Reader (Option (Bool × List Char)) := do
  let letter ← take? fun c => c = 'e' || c = 'E'
  if letter.isSome then
    let sign ← take? fun c => c = '+' || c = '-'
    let found ← digits cut
    return some (sign == some '-', found)
  else return none

/-- The notation of a number. `cut` is the error when the text ends inside it. -/
def numberText (cut : ReadError) : Reader NumberText := do
  let sign ← take? (· = '-')
  let whole ← wholePart cut
  let fraction ← fractionPart cut
  let exponent ← exponentPart cut
  return ⟨sign.isSome, whole, fraction, exponent⟩

/-! ## Value -/

inductive Number where
  | whole (n : Int)
  | float (x : Binary64)
  deriving DecidableEq, Repr

/-- Digits are taken as long as the value stays below `2 ^ 64`; the others are left. -/
def wordDigits (value : Nat) : List Char → Nat × List Char
  | [] => (value, [])
  | c :: rest =>
    let next := 10 * value + (c.toNat - '0'.toNat)
    if next < Nat.pow 2 64 then wordDigits next rest else (value, c :: rest)

/-- The greatest power of ten that is a finite float. -/
def greatestPower : Nat := 308

def powerOfTen (n : Nat) : Binary64 := Floating.ofNat .binary64 (Nat.pow 10 n)

/-- A float times a power of ten, rounded after each step; nothing if it becomes infinite. -/
def scaled? (x : Binary64) (exponent : Int) : Option Binary64 :=
  if exponent.natAbs ≤ greatestPower then
    if exponent < 0 then some (x.div (powerOfTen exponent.natAbs))
    else
      let y := x.mul (powerOfTen exponent.natAbs)
      if y.isFinite then some y else none
  else if x.isZero then some x
  else if 0 ≤ exponent then none
  else scaled? (x.div (powerOfTen greatestPower)) (exponent + greatestPower)
termination_by exponent.natAbs
decreasing_by
  simp only [greatestPower] at *
  omega

namespace NumberText

/-- The digits that count and the power of ten of the last of them. -/
def significand (t : NumberText) : Nat × Int :=
  let (value, dropped) := wordDigits 0 t.whole
  let fraction := t.fraction.getD []
  let (value, unread) := wordDigits value fraction
  (value, dropped.length - (fraction.length - unread.length : Nat))

def exponentValue (t : NumberText) : Int :=
  match t.exponent with
  | none => 0
  | some (negative, found) =>
    if negative then -(Text.decimalValue found : Int) else Text.decimalValue found

/-- The float meant by a number with a point, an exponent or too many digits. -/
def float? (t : NumberText) : Option Binary64 :=
  let (value, exponent) := t.significand
  (scaled? (Floating.ofNat .binary64 value) (exponent + t.exponentValue)).map fun x =>
    if t.negative then x.negate else x

/-- The whole number meant, if 64 bits hold it. Minus zero is none: it keeps its sign as a
float. -/
def whole? (t : NumberText) : Option Int :=
  let n := Text.decimalValue t.whole
  if t.fraction.isSome || t.exponent.isSome then none
  else if t.negative then
    if 0 < n ∧ n ≤ Nat.pow 2 63 then some (-n) else none
  else if n < Nat.pow 2 64 then some n
  else none

def value? (t : NumberText) : Option Number :=
  match t.whole? with
  | some n => some (.whole n)
  | none => t.float?.map .float

end NumberText

def Number.toFloating (f : FloatFormat) : Number → Floating f
  | .whole n => Floating.ofInt f n
  | .float x => x.convert f

/-- A number, which must not be too large for a float. -/
def number : Reader Number := do
  let t ← numberText .truncated
  match t.value? with
  | some n => return n
  | none => malformed

end CheckedSelect.Json
