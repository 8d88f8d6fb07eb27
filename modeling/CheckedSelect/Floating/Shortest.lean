import CheckedSelect.Floating.Format

/-!
# CheckedSelect.Floating.Shortest

The fewest decimal digits that read back as a given number, and of those the nearest.

The numbers that round to a magnitude form an interval between two half-way points, which belong
to it when the magnitude is even. Measured in a small enough power of ten, the number and both
half-way points are whole, so the search is over grids of powers of ten: the coarsest grid with a
point in the interval gives the digits.

* `Tie` - what happens when two points of that grid are equally near;
* `Interval.coarsest` - the search, from a coarse grid down to grid one;
* `Floating.digits` - coefficient and exponent of the shortest decimal.
-/

namespace CheckedSelect

inductive Tie where
  | even
  | away
  deriving DecidableEq, Repr

/-- The decimal `coefficient * 10 ^ exponent`. -/
structure DecimalDigits where
  coefficient : Nat
  exponent : Int
  deriving DecidableEq, Repr

/-- A whole number with the interval of those that stand for it. -/
structure Interval where
  low : Nat
  value : Nat
  high : Nat
  closed : Bool

namespace Interval

def contains (i : Interval) (n : Nat) : Bool :=
  if i.closed then i.low ≤ n && n ≤ i.high else i.low < n && n < i.high

/-- The nearer of `below * step` and `(below + 1) * step`. -/
def nearer (i : Interval) (tie : Tie) (step below : Nat) : Nat :=
  let gapBelow := i.value - below * step
  let gapAbove := (below + 1) * step - i.value
  if gapBelow < gapAbove then below
  else if gapAbove < gapBelow then below + 1
  else match tie with
    | .even => if below % 2 = 0 then below else below + 1
    | .away => below + 1

/-- The coefficient and the grid `10 ^ k` of the first grid, from `k` downwards, that has a point
in the interval. The only points worth a look are the two neighbours of the value. -/
def coarsest (i : Interval) (tie : Tie) : Nat → Nat × Nat
  | 0 => (i.value, 0)
  | k + 1 =>
    let step := Nat.pow 10 (k + 1)
    let below := i.value / step
    match i.contains (below * step), i.contains ((below + 1) * step) with
    | true, true => (i.nearer tie step below, k + 1)
    | true, false => (below, k + 1)
    | false, true => (below + 1, k + 1)
    | false, false => i.coarsest tie k

end Interval

namespace FloatFormat

/-- Half a least unit is `2 ^ -gridBits`, and so a whole multiple of `10 ^ -gridBits`. -/
def gridBits (f : FloatFormat) : Nat := f.leastBits + 1

/-- The interval that reads back as a positive finite magnitude, in units of
`10 ^ -gridBits`. -/
def interval (f : FloatFormat) (magnitude : Nat) : Interval :=
  let unit := Nat.pow 5 f.gridBits
  { low := (f.units (magnitude - 1) + f.units magnitude) * unit
    value := 2 * f.units magnitude * unit
    high := (f.units magnitude + f.units (magnitude + 1)) * unit
    closed := magnitude % 2 == 0 }

end FloatFormat

/-- The shortest digits of a finite number. The first grid is coarser than the whole interval. -/
def Floating.digits {f : FloatFormat} (tie : Tie) (x : Floating f) : DecimalDigits :=
  if x.isZero then ⟨0, 0⟩
  else
    let i := f.interval x.magnitude
    let (coefficient, grid) := i.coarsest tie (Nat.log2 i.high / 3 + 1)
    ⟨coefficient, grid - f.gridBits⟩

end CheckedSelect
