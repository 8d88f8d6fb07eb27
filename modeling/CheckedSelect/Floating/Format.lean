/-!
# CheckedSelect.Floating.Format

Binary floating-point numbers as pairs of a sign and a magnitude.

A magnitude is the stored exponent and fraction read as one number, so magnitudes are ordered as
the numbers they stand for. Every finite number is a whole multiple of the least positive one;
`FloatFormat.units` is that multiple, and all arithmetic below is exact arithmetic on it.

* `FloatFormat` - the two field widths; `binary32`, `binary64`;
* `Floating f` - a number of the format, NaNs and infinities included;
* `Floating.agrees` - comparison as numbers: no NaN agrees with anything, both zeros agree.
-/

namespace CheckedSelect

structure FloatFormat where
  fractionBits : Nat
  exponentBits : Nat
  deriving DecidableEq, Repr

namespace FloatFormat

def binary32 : FloatFormat := ⟨23, 8⟩

def binary64 : FloatFormat := ⟨52, 11⟩

/-- How many magnitudes there are. -/
def magnitudes (f : FloatFormat) : Nat := Nat.pow 2 (f.exponentBits + f.fractionBits)

/-- The magnitude of infinity; larger ones are NaNs. -/
def infinity (f : FloatFormat) : Nat :=
  (Nat.pow 2 f.exponentBits - 1) * Nat.pow 2 f.fractionBits

/-- The least positive number is two to the minus this. -/
def leastBits (f : FloatFormat) : Nat := Nat.pow 2 (f.exponentBits - 1) + f.fractionBits - 2

/-- A magnitude as a multiple of the least positive number. Below the first normal magnitude the
steps have size one, and each further exponent doubles them. -/
def units (f : FloatFormat) (magnitude : Nat) : Nat :=
  let exponent := magnitude / Nat.pow 2 f.fractionBits
  let fraction := magnitude % Nat.pow 2 f.fractionBits
  if exponent = 0 then fraction
  else (Nat.pow 2 f.fractionBits + fraction) * Nat.pow 2 (exponent - 1)

theorem infinity_lt_magnitudes (f : FloatFormat) : f.infinity < f.magnitudes := by
  have he : 0 < Nat.pow 2 f.exponentBits := Nat.two_pow_pos _
  have hf : 0 < Nat.pow 2 f.fractionBits := Nat.two_pow_pos _
  have hsum : Nat.pow 2 (f.exponentBits + f.fractionBits) =
      Nat.pow 2 f.exponentBits * Nat.pow 2 f.fractionBits := Nat.pow_add 2 _ _
  rw [infinity, magnitudes, hsum]
  exact Nat.mul_lt_mul_of_pos_right (by omega) hf

end FloatFormat

structure Floating (f : FloatFormat) where
  negative : Bool
  magnitude : Nat
  magnitude_lt : magnitude < f.magnitudes
  deriving DecidableEq, Repr

abbrev Binary32 : Type := Floating .binary32

abbrev Binary64 : Type := Floating .binary64

namespace Floating

variable {f : FloatFormat}

def isFinite (x : Floating f) : Bool := x.magnitude < f.infinity

def isNaN (x : Floating f) : Bool := f.infinity < x.magnitude

def isZero (x : Floating f) : Bool := x.magnitude == 0

/-- The absolute value of a finite number in units of the least positive one. -/
def units (x : Floating f) : Nat := f.units x.magnitude

/-- The sign is the bit above the magnitude. -/
def toBits (x : Floating f) : Nat :=
  (if x.negative then f.magnitudes else 0) + x.magnitude

def ofBits (f : FloatFormat) (bits : Nat) : Floating f where
  negative := bits / f.magnitudes % 2 == 1
  magnitude := bits % f.magnitudes
  magnitude_lt := Nat.mod_lt _ (Nat.two_pow_pos _)

def negate (x : Floating f) : Floating f :=
  { x with negative := !x.negative }

def agrees (x y : Floating f) : Bool :=
  if x.isNaN || y.isNaN then false
  else x.magnitude == y.magnitude && (x.negative == y.negative || x.isZero)

end Floating

end CheckedSelect
