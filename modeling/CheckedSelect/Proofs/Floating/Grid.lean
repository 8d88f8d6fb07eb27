import CheckedSelect.Proofs.Floating.Shortest
import Mathlib.Tactic.Ring

/-!
# CheckedSelect.Proofs.Floating.Grid

How fine the grid of the shortest digits can be, and how large their coefficient.

* `Interval.le_coarsest`: the search stops before the steps of the grid are too small to be worth it.
* `interval_wide`: how wide the interval of a number is, in half steps of the format.
* `Floating.exists_grid`, `Floating.coefficient_le`: so shortest digits lie on a grid that is not too
  fine, and are not too many.
-/

namespace CheckedSelect

/-! ## The search -/

namespace Interval

variable {i : Interval}

theorem contains_of_le_value (h : i.contains i.value = true) {n : Nat} (hlow : i.low < n)
    (hn : n ≤ i.value) : i.contains n = true := by
  unfold contains at h ⊢
  split at h
  · next hclosed =>
    rw [if_pos hclosed]
    simp only [Bool.and_eq_true, decide_eq_true_eq] at h ⊢
    omega
  · next hopen =>
    rw [if_neg hopen]
    simp only [Bool.and_eq_true, decide_eq_true_eq] at h ⊢
    omega

theorem contains_of_lt_high (h : i.contains i.value = true) {n : Nat} (hn : i.value < n)
    (hhigh : n < i.high) : i.contains n = true := by
  unfold contains at h ⊢
  split at h
  · next hclosed =>
    rw [if_pos hclosed]
    simp only [Bool.and_eq_true, decide_eq_true_eq] at h ⊢
    omega
  · next hopen =>
    rw [if_neg hopen]
    simp only [Bool.and_eq_true, decide_eq_true_eq] at h ⊢
    omega

/-- An interval that is wider than the steps of a grid has a point of it next to the value. -/
theorem contains_neighbour (h : i.contains i.value = true) {step : Nat} (hstep : 0 < step)
    (hwide : i.low + step < i.high) :
    i.contains (i.value / step * step) = true ∨ i.contains ((i.value / step + 1) * step) = true := by
  have hbelow : i.value / step * step ≤ i.value := Nat.div_mul_le_self i.value step
  have habove : i.value < (i.value / step + 1) * step := by
    rw [Nat.add_mul, Nat.one_mul]
    exact Nat.lt_div_mul_add hstep
  rcases Nat.lt_or_ge i.low (i.value / step * step) with hlow | hlow
  · exact .inl (contains_of_le_value h hlow hbelow)
  · refine .inr (contains_of_lt_high h habove ?_)
    rw [Nat.add_mul, Nat.one_mul]
    omega

/-- The search does not go past such a grid. -/
theorem le_coarsest (h : i.contains i.value = true) (tie : Tie) {grid k : Nat} (hgrid : grid ≤ k)
    (hwide : i.low + Nat.pow 10 grid < i.high) : grid ≤ (i.coarsest tie k).2 := by
  induction k with
  | zero => exact Nat.le_trans hgrid (Nat.zero_le _)
  | succ k ih =>
    rw [coarsest_succ]
    rcases Nat.eq_or_lt_of_le hgrid with rfl | hcoarser
    · have hpoint := contains_neighbour h (DecimalDigits.ten_pow_pos _) hwide
      split
      · split <;> exact Nat.le_refl _
      · next hbelow =>
        rw [if_pos (hpoint.resolve_left hbelow)]
    · have hback := ih (Nat.le_of_lt_succ hcoarser)
      split
      · split <;> exact hgrid
      · split
        · exact hgrid
        · exact hback

end Interval

/-! ## The width of an interval -/

namespace FloatFormat

variable {f : FloatFormat} {magnitude shift steps : Nat}

/-- Half a step of size `2 ^ shift`, in the units of intervals. -/
def halfStep (f : FloatFormat) (shift : Nat) : Nat := Nat.pow 2 shift * Nat.pow 5 f.gridBits

theorem halfStep_pos (f : FloatFormat) (shift : Nat) : 0 < f.halfStep shift :=
  Nat.mul_pos (Nat.two_pow_pos shift) f.unit_pos

theorem interval_low_succ (f : FloatFormat) (magnitude : Nat) :
    (f.interval (magnitude + 1)).low = (f.interval magnitude).high := rfl

theorem interval_high_eq (hparts : f.Parts magnitude shift steps) (hlt : steps < 2 * f.binade) :
    (f.interval magnitude).high = (2 * steps + 1) * f.halfStep shift := by
  show (f.units magnitude + f.units (magnitude + 1)) * Nat.pow 5 f.gridBits = _
  rw [hparts.units_eq, hparts.units_succ hlt, ← Nat.add_mul, Nat.mul_assoc]
  congr 1
  omega

theorem interval_wide_of_units
    (h : 2 * (f.units (magnitude - 1) + f.units magnitude) + 3 * Nat.pow 2 shift ≤
      2 * (f.units magnitude + f.units (magnitude + 1))) :
    2 * (f.interval magnitude).low + 3 * f.halfStep shift ≤ 2 * (f.interval magnitude).high := by
  have hscaled := Nat.mul_le_mul_right (Nat.pow 5 f.gridBits) h
  rw [Nat.add_mul, Nat.mul_assoc, Nat.mul_assoc, Nat.mul_assoc] at hscaled
  exact hscaled

/-- The step below a number may be half as large as the step above it. -/
theorem interval_wide (hparts : f.Parts magnitude shift steps) (hlt : steps < 2 * f.binade)
    (hpos : 0 < magnitude) :
    2 * (f.interval magnitude).low + 3 * f.halfStep shift ≤ 2 * (f.interval magnitude).high := by
  obtain ⟨previous, rfl⟩ : ∃ previous, magnitude = previous + 1 := ⟨magnitude - 1, by omega⟩
  have hgrow : 2 * f.units previous + f.units (previous + 1 + 1) ≤ 3 * f.units (previous + 1) :=
    (f.units_grow previous).2
  have hnext := hparts.units_succ hlt
  rw [Nat.add_mul, Nat.one_mul, ← hparts.units_eq] at hnext
  apply interval_wide_of_units
  rw [Nat.add_sub_cancel]
  omega

/-- The step above a number is no smaller than the one below it. -/
theorem interval_wide_succ (hparts : f.Parts magnitude shift steps) (hlt : steps < 2 * f.binade) :
    2 * (f.interval (magnitude + 1)).low + 3 * f.halfStep shift ≤
      2 * (f.interval (magnitude + 1)).high := by
  have hgrow : 2 * f.units (magnitude + 1) ≤ f.units magnitude + f.units (magnitude + 1 + 1) :=
    (f.units_grow magnitude).1
  have hnext := hparts.units_succ hlt
  rw [Nat.add_mul, Nat.one_mul, ← hparts.units_eq] at hnext
  apply interval_wide_of_units
  rw [Nat.add_sub_cancel]
  omega

end FloatFormat

/-! ## The digits -/

namespace Floating

variable {f : FloatFormat} {x : Floating f}

theorem digits_congr {x y : Floating f} (h : x.magnitude = y.magnitude) (tie : Tie) :
    x.digits tie = y.digits tie := by
  unfold digits isZero
  rw [h]

/-- The shortest digits of a positive number are a point of its interval, on no finer grid than the
interval asks for. -/
theorem exists_grid (hpos : 0 < x.magnitude) (tie : Tie) :
    ∃ coefficient grid : Nat, x.digits tie = ⟨coefficient, grid - f.gridBits⟩ ∧
      (f.interval x.magnitude).contains (Interval.point (coefficient, grid)) = true ∧
      ∀ k, (f.interval x.magnitude).low + Nat.pow 10 k < (f.interval x.magnitude).high →
        k ≤ grid := by
  have hvalue := f.interval_contains_value x.magnitude
  have hhigh := Interval.high_lt_start (f.interval x.magnitude).high
  generalize Nat.log2 (f.interval x.magnitude).high / 3 + 1 = start at hhigh
  refine ⟨_, _, digits_eq tie hpos (k := start) ?_, Interval.coarsest_contains hvalue tie start, ?_⟩
  · exact Nat.lt_of_lt_of_le hhigh (Nat.pow_le_pow_right (by decide) (Nat.le_succ start))
  · intro k hwide
    refine Interval.le_coarsest hvalue tie ?_ hwide
    have hpow : Nat.pow 10 k < Nat.pow 10 start := by omega
    exact Nat.le_of_lt ((Nat.pow_lt_pow_iff_right (by decide)).1 hpow)

/-- The power of ten just below three quarters of a step. -/
theorem exists_power {n : Nat} (h : 2 < n) :
    ∃ k, 2 * Nat.pow 10 k < n ∧ n ≤ 2 * Nat.pow 10 (k + 1) := by
  have hbound : ∃ k, n ≤ 2 * Nat.pow 10 (k + 1) := by
    refine ⟨n, ?_⟩
    have hlt : n < Nat.pow 10 n := Nat.lt_pow_self (by decide)
    have hsucc : Nat.pow 10 (n + 1) = Nat.pow 10 n * 10 := Nat.pow_succ 10 n
    omega
  refine ⟨Nat.find hbound, ?_, Nat.find_spec hbound⟩
  cases hk : Nat.find hbound with
  | zero => exact h
  | succ k => exact Nat.lt_of_not_ge (Nat.find_min hbound (hk ▸ Nat.lt_succ_self k))

/-- The grid is at most ten times finer than the interval asks for, so the digits are few. -/
theorem coefficient_le (hpos : 0 < x.magnitude) (tie : Tie) :
    0 < (x.digits tie).coefficient ∧ 3 * (x.digits tie).coefficient ≤ 80 * f.binade := by
  obtain ⟨coefficient, grid, hdigits, hpoint, hgrid⟩ := x.exists_grid hpos tie
  obtain ⟨shift, steps, hparts, hlt⟩ := f.exists_parts x.magnitude
  have hwide := FloatFormat.interval_wide hparts hlt hpos
  have hlow := FloatFormat.interval_low_pos (f := f) hpos
  have hfrom := Interval.low_le_of_contains hpoint
  have hto := Interval.le_high_of_contains hpoint
  have hhigh := FloatFormat.interval_high_eq hparts hlt
  have hhalf := f.halfStep_pos shift
  generalize f.halfStep shift = half at hwide hhigh hhalf
  rw [hdigits]
  constructor
  · apply Nat.pos_of_ne_zero
    rintro rfl
    rw [Interval.point, Nat.zero_mul] at hfrom
    omega
  · obtain ⟨k, hbelow, habove⟩ := exists_power (n := 3 * half) (by omega)
    have hle : k ≤ grid := hgrid k (by omega)
    have hpow : Nat.pow 10 k ≤ Nat.pow 10 grid := Nat.pow_le_pow_right (by decide) hle
    have hten : Nat.pow 10 (k + 1) = 10 * Nat.pow 10 k := Nat.pow_succ'
    refine Nat.le_of_mul_le_mul_right ?_ (DecimalDigits.ten_pow_pos k)
    calc 3 * coefficient * Nat.pow 10 k
        ≤ 3 * (coefficient * Nat.pow 10 grid) := by
          rw [Nat.mul_assoc]
          exact Nat.mul_le_mul_left 3 (Nat.mul_le_mul_left coefficient hpow)
      _ ≤ 3 * ((2 * steps + 1) * half) := Nat.mul_le_mul_left 3 (hhigh ▸ hto)
      _ ≤ 4 * f.binade * (3 * half) := by
        rw [Nat.mul_left_comm]
        exact Nat.mul_le_mul_right _ (by omega)
      _ ≤ 4 * f.binade * (20 * Nat.pow 10 k) := Nat.mul_le_mul_left _ (by omega)
      _ = 80 * f.binade * Nat.pow 10 k := by ring

end Floating
end CheckedSelect
