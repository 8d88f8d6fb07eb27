import CheckedSelect.Floating.Format

/-!
# CheckedSelect.Floating.Round

Rounding a fraction to the nearest number of a format, half-way cases to the even neighbour, and
the operations that need it.

* `roundHalfEven num den` - the nearest whole number to `num / den`;
* `FloatFormat.nearest` - the nearest magnitude to `num / den` units, infinity when too large;
* `Floating.ofInt`, `Floating.convert`, `Floating.mul`, `Floating.div`.
-/

namespace CheckedSelect

def roundHalfEven (num den : Nat) : Nat :=
  let below := num / den
  let twice := 2 * (num % den)
  if twice < den || (twice == den && below % 2 == 0) then below else below + 1

namespace FloatFormat

/-- The step at `num / den` units is `2 ^ shift`, and there is one magnitude per step: `shift`
full exponents lie below the steps counted by the quotient. A quotient rounded up to the next
exponent lands on its first magnitude. -/
def nearest (f : FloatFormat) (num den : Nat) : Nat :=
  let shift := Nat.log2 (num / den) - f.fractionBits
  min f.infinity (shift * Nat.pow 2 f.fractionBits + roundHalfEven num (den * Nat.pow 2 shift))

theorem nearest_lt_magnitudes (f : FloatFormat) (num den : Nat) :
    f.nearest num den < f.magnitudes :=
  Nat.lt_of_le_of_lt (Nat.min_le_left _ _) f.infinity_lt_magnitudes

end FloatFormat

namespace Floating

/-- The number of the given sign nearest to `num / den` units. -/
def round (f : FloatFormat) (negative : Bool) (num den : Nat) : Floating f :=
  ⟨negative, f.nearest num den, f.nearest_lt_magnitudes num den⟩

def ofNat (f : FloatFormat) (n : Nat) : Floating f :=
  round f false (n * Nat.pow 2 f.leastBits) 1

/-- Zero has no sign of its own here: `ofInt f 0` is positive. -/
def ofInt (f : FloatFormat) (n : Int) : Floating f :=
  round f (n < 0) (n.natAbs * Nat.pow 2 f.leastBits) 1

/-- A NaN with its leading fraction bits, made quiet. -/
def nan (g : FloatFormat) (negative : Bool) (fraction : Nat) : Floating g where
  negative := negative
  magnitude := (g.infinity + fraction ||| Nat.pow 2 (g.fractionBits - 1)) % g.magnitudes
  magnitude_lt := Nat.mod_lt _ (Nat.two_pow_pos _)

/-- The nearest number of another format. Infinities and NaNs stay what they are. -/
def convert {f : FloatFormat} (g : FloatFormat) (x : Floating f) : Floating g :=
  if x.isFinite then
    round g x.negative (x.units * Nat.pow 2 g.leastBits) (Nat.pow 2 f.leastBits)
  else if x.isNaN then
    nan g x.negative
      (x.magnitude % Nat.pow 2 f.fractionBits * Nat.pow 2 g.fractionBits /
        Nat.pow 2 f.fractionBits)
  else
    ⟨x.negative, g.infinity, g.infinity_lt_magnitudes⟩

/-- The product of two finite numbers. -/
def mul {f : FloatFormat} (x y : Floating f) : Floating f :=
  round f (x.negative != y.negative) (x.units * y.units) (Nat.pow 2 f.leastBits)

/-- The quotient of two finite numbers, the second not zero. -/
def div {f : FloatFormat} (x y : Floating f) : Floating f :=
  round f (x.negative != y.negative) (x.units * Nat.pow 2 f.leastBits) y.units

end Floating

end CheckedSelect
