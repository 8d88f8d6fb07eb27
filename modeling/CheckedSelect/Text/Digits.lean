/-!
# CheckedSelect.Text.Digits

Digit strings: padding to a width, hexadecimal values, and cutting a run of decimal digits off
the front of a text.

* `padded` - at least `width` digits, filled with zeros on the left;
* `hex?` - the value of a string of hexadecimal digits of either case;
* `digitRun` - the decimal digits at the front, at most a given number of them.
-/

namespace CheckedSelect.Text

def padded (base width n : Nat) : List Char :=
  let digits := Nat.toDigits base n
  List.replicate (width - digits.length) '0' ++ digits

/-- Upper case digits are read as well, but never written. -/
def hexDigit? (c : Char) : Option Nat :=
  if c.isDigit then some (c.toNat - '0'.toNat)
  else if 'a' ≤ c ∧ c ≤ 'f' then some (c.toNat - 'a'.toNat + 10)
  else if 'A' ≤ c ∧ c ≤ 'F' then some (c.toNat - 'A'.toNat + 10)
  else none

/-- The value of hexadecimal digits read after the digits of `high`. -/
def hexFrom? (high : Nat) : List Char → Option Nat
  | [] => some high
  | c :: rest =>
    match hexDigit? c with
    | some d => hexFrom? (16 * high + d) rest
    | none => none

def hex? (digits : List Char) : Option Nat := hexFrom? 0 digits

/-- At most `limit` leading decimal digits, and what follows them. -/
def digitRun : (limit : Nat) → List Char → List Char × List Char
  | limit + 1, c :: rest =>
    if c.isDigit then
      let (digits, after) := digitRun limit rest
      (c :: digits, after)
    else ([], c :: rest)
  | _, text => ([], text)

/-- The value of decimal digits. -/
def decimalValue (digits : List Char) : Nat := Nat.ofDigitChars 10 digits 0

/-- One to `limit` decimal digits as a number. -/
def number? (limit : Nat) (text : List Char) : Option (Nat × List Char) :=
  match digitRun limit text with
  | ([], _) => none
  | (digits, after) => some (decimalValue digits, after)

@[simp] theorem decimalValue_toDigits (n : Nat) : decimalValue (Nat.toDigits 10 n) = n :=
  Nat.ofDigitChars_toDigits (by decide) (by decide)

end CheckedSelect.Text
