import CheckedSelect.Proofs.Floating.Layout
import CheckedSelect.Proofs.Json.Number

/-!
# CheckedSelect.Proofs.Floating.Whole

Whole numbers as floats.

* `Interval.Around`: an interval in which no other whole number lies. The search ends at the whole
  number in it, whatever the number of its zeros (`Interval.Around.coarsest_spec`).
* `interval_around`: the interval of a whole number is one, if its two neighbours are numbers of the
  format too.
* `write_ofInt`: such a float is written as the whole number is.
-/

namespace CheckedSelect

/-! ## The search -/

namespace Interval

/-- The only whole number in the interval is its value, in units of `10 ^ grid`. -/
structure Around (i : Interval) (n grid : Nat) : Prop where
  pos : 0 < n
  value_eq : i.value = n * Nat.pow 10 grid
  lt_low : (n - 1) * Nat.pow 10 grid < i.low
  high_lt : i.high < (n + 1) * Nat.pow 10 grid
  contains_value : i.contains i.value = true

namespace Around

variable {i : Interval} {n grid : Nat}

theorem eq_of_contains (h : i.Around n grid) {m : Nat}
    (hm : i.contains (m * Nat.pow 10 grid) = true) : m = n := by
  have hpow : 0 < Nat.pow 10 grid := DecimalDigits.ten_pow_pos grid
  have hpos := h.pos
  have hlow : (n - 1) * Nat.pow 10 grid < m * Nat.pow 10 grid :=
    Nat.lt_of_lt_of_le h.lt_low (low_le_of_contains hm)
  have hhigh : m * Nat.pow 10 grid < (n + 1) * Nat.pow 10 grid :=
    Nat.lt_of_le_of_lt (le_high_of_contains hm) h.high_lt
  have hlower := Nat.lt_of_mul_lt_mul_right hlow
  have hupper := Nat.lt_of_mul_lt_mul_right hhigh
  omega

/-- On the grid of whole numbers the value is found. -/
theorem coarsest_grid (h : i.Around n grid) (tie : Tie) : i.coarsest tie grid = (n, grid) := by
  cases grid with
  | zero =>
    rw [coarsest, h.value_eq]
    exact congrArg (·, 0) (Nat.mul_one n)
  | succ grid =>
    have hbelow : i.value / Nat.pow 10 (grid + 1) = n := by
      rw [h.value_eq]
      exact Nat.mul_div_cancel n (DecimalDigits.ten_pow_pos _)
    have hvalue := h.contains_value
    rw [h.value_eq] at hvalue
    have habove : ¬ i.contains ((n + 1) * Nat.pow 10 (grid + 1)) = true := by
      intro hcontains
      exact Nat.succ_ne_self n (h.eq_of_contains hcontains)
    rw [coarsest_succ, hbelow, if_pos hvalue, if_neg habove]

/-- A grid of larger powers of ten has no point in the interval but the value. -/
theorem coarsest_spec (h : i.Around n grid) (tie : Tie) (k : Nat) :
    ∃ c zeros, i.coarsest tie (grid + k) = (c, grid + zeros) ∧ c * Nat.pow 10 zeros = n := by
  induction k with
  | zero => exact ⟨n, 0, h.coarsest_grid tie, Nat.mul_one n⟩
  | succ k ih =>
    have hstep : Nat.pow 10 (grid + k + 1) = Nat.pow 10 (k + 1) * Nat.pow 10 grid := by
      rw [Nat.add_assoc, Nat.add_comm]
      exact Nat.pow_add 10 _ _
    have hbelow : i.value / (Nat.pow 10 (k + 1) * Nat.pow 10 grid) = n / Nat.pow 10 (k + 1) := by
      rw [h.value_eq]
      exact Nat.mul_div_mul_right _ _ (DecimalDigits.ten_pow_pos grid)
    have habove : ¬ i.contains
        ((n / Nat.pow 10 (k + 1) + 1) * Nat.pow 10 (k + 1) * Nat.pow 10 grid) = true := by
      intro hcontains
      have heq := h.eq_of_contains hcontains
      have hlt := Nat.lt_div_mul_add (a := n) (DecimalDigits.ten_pow_pos (k + 1))
      rw [Nat.add_mul, Nat.one_mul] at heq
      omega
    rw [← Nat.add_assoc, coarsest_succ, hstep, hbelow, ← Nat.mul_assoc, ← Nat.mul_assoc,
      if_neg habove, if_neg habove]
    split
    · next hcontains => exact ⟨_, k + 1, rfl, h.eq_of_contains hcontains⟩
    · exact ih

end Around

end Interval

/-! ## The interval of a whole number -/

namespace FloatFormat

variable {f : FloatFormat}

theorem two_pow_mul_unit (f : FloatFormat) (n : Nat) :
    2 * (n * Nat.pow 2 f.leastBits) * Nat.pow 5 f.gridBits = n * Nat.pow 10 f.gridBits := by
  have hten : Nat.pow 10 f.gridBits = Nat.pow 2 f.gridBits * Nat.pow 5 f.gridBits :=
    Nat.mul_pow 2 5 _
  have htwo : Nat.pow 2 f.gridBits = 2 * Nat.pow 2 f.leastBits := Nat.pow_succ'
  rw [hten, htwo]
  ac_rfl

/-- The whole numbers on both sides are numbers of the format, and so not nearer than the
neighbours. -/
theorem interval_around {n magnitude : Nat} (hpos : 0 < n) (hn : n < 2 * f.binade)
    (hunits : f.units magnitude = n * Nat.pow 2 f.leastBits) :
    (f.interval magnitude).Around n f.gridBits := by
  have hone : 0 < Nat.pow 2 f.leastBits := Nat.two_pow_pos _
  obtain ⟨below, hbelow⟩ : ∃ below, f.units below = (n - 1) * Nat.pow 2 f.leastBits :=
    exists_units_eq (by omega)
  obtain ⟨above, habove⟩ : ∃ above, f.units above = (n + 1) * Nat.pow 2 f.leastBits :=
    exists_units_eq (by omega)
  have hless : f.units below < f.units magnitude := by
    rw [hbelow, hunits]
    exact Nat.mul_lt_mul_of_pos_right (by omega) hone
  have hmore : f.units magnitude < f.units above := by
    rw [habove, hunits]
    exact Nat.mul_lt_mul_of_pos_right (by omega) hone
  have hprevious : f.units below ≤ f.units (magnitude - 1) :=
    f.units_strictMono.monotone (Nat.le_sub_one_of_lt (f.units_strictMono.lt_iff_lt.1 hless))
  have hnext : f.units (magnitude + 1) ≤ f.units above :=
    f.units_strictMono.monotone (f.units_strictMono.lt_iff_lt.1 hmore)
  refine ⟨hpos, ?_, ?_, ?_, f.interval_contains_value magnitude⟩
  · show 2 * f.units magnitude * Nat.pow 5 f.gridBits = _
    rw [hunits, two_pow_mul_unit]
  · rw [← two_pow_mul_unit, ← hbelow]
    exact Nat.mul_lt_mul_of_pos_right (by omega) f.unit_pos
  · rw [← two_pow_mul_unit, ← habove]
    exact Nat.mul_lt_mul_of_pos_right (by omega) f.unit_pos

end FloatFormat

/-! ## Text -/

namespace FloatLayout

variable {f : FloatFormat}

/-- The digits of a positive whole number with the zeros at its end. -/
theorem positional_digits_whole {x : Floating f} {n : Nat} (hpos : 0 < n) (hn : n < 2 * f.binade)
    (hunits : f.units x.magnitude = n * Nat.pow 2 f.leastBits) (tie : Tie) :
    (x.digits tie).positional [] = Nat.toDigits 10 n := by
  have haround := FloatFormat.interval_around hpos hn hunits
  have hmagnitude : 0 < x.magnitude := by
    rw [← f.units_strictMono.lt_iff_lt, f.units_zero, hunits]
    exact Nat.mul_pos hpos (Nat.two_pow_pos _)
  have hhigh : (f.interval x.magnitude).high <
      Nat.pow 10 (f.gridBits + (Nat.log2 (f.interval x.magnitude).high / 3 + 1) + 1) :=
    Nat.lt_of_lt_of_le (Interval.high_lt_start _) (Nat.pow_le_pow_right (by decide) (by omega))
  obtain ⟨c, zeros, hcoarsest, hc⟩ :=
    haround.coarsest_spec tie (Nat.log2 (f.interval x.magnitude).high / 3 + 1)
  have hcpos : 0 < c := by
    apply Nat.pos_of_ne_zero
    rintro rfl
    rw [Nat.zero_mul] at hc
    omega
  have hexponent : ((f.gridBits + zeros : Nat) : Int) - f.gridBits = .ofNat zeros := by
    show _ = (zeros : Int)
    omega
  rw [Floating.digits_eq tie hmagnitude hhigh, hcoarsest, hexponent,
    DecimalDigits.positional_whole rfl, ← hc]
  exact (Text.toDigits_mul_pow hcpos zeros).symm

/-- A whole number of few enough digits is a number of the format. -/
theorem ofInt_spec (hbits : 0 < f.fractionBits)
    (hrange : 2 * f.binade * Nat.pow 2 f.leastBits ≤ f.units f.infinity) {n : Int}
    (hn : n.natAbs < 2 * f.binade) :
    (Floating.ofInt f n).isFinite = true ∧
    f.units (Floating.ofInt f n).magnitude = n.natAbs * Nat.pow 2 f.leastBits := by
  obtain ⟨magnitude, hunits⟩ : ∃ magnitude, f.units magnitude = n.natAbs * Nat.pow 2 f.leastBits :=
    FloatFormat.exists_units_eq (Nat.le_of_lt hn)
  have hfinite : magnitude < f.infinity := by
    rw [← f.units_strictMono.lt_iff_lt, hunits]
    exact Nat.lt_of_lt_of_le (Nat.mul_lt_mul_of_pos_right hn (Nat.two_pow_pos _)) hrange
  have hmagnitude : (Floating.ofInt f n).magnitude = magnitude :=
    FloatFormat.nearest_units hbits Nat.one_pos hfinite (by rw [hunits, Nat.mul_one])
  unfold Floating.isFinite
  rw [hmagnitude]
  exact ⟨decide_eq_true hfinite, hunits⟩

/-- It has the same text as a float, zero included. -/
theorem write_ofInt (hbits : 0 < f.fractionBits)
    (hrange : 2 * f.binade * Nat.pow 2 f.leastBits ≤ f.units f.infinity) {n : Int}
    (hn : n.natAbs < 2 * f.binade) : sql.write (Floating.ofInt f n) = Json.intText n := by
  obtain ⟨hfinite, hunits⟩ := ofInt_spec hbits hrange hn
  have hbody : ((Floating.ofInt f n).digits .away).positional [] = Nat.toDigits 10 n.natAbs := by
    rcases Nat.eq_zero_or_pos n.natAbs with hzero | hpos
    · have hmagnitude : (Floating.ofInt f n).magnitude = 0 := by
        rw [hzero, Nat.zero_mul, ← f.units_zero] at hunits
        exact f.units_strictMono.injective hunits
      rw [Floating.digits_zero .away hmagnitude, hzero]
      rfl
    · exact positional_digits_whole hpos hn hunits .away
  have hsign : (Floating.ofInt f n).negative = decide (n < 0) := rfl
  rw [write_sql hfinite, hbody, hsign, Json.intText_eq]
  by_cases hneg : n < 0
  · rw [decide_eq_true hneg, if_pos rfl, if_pos hneg]
  · rw [decide_eq_false hneg, if_neg Bool.false_ne_true, if_neg hneg]

end FloatLayout
end CheckedSelect
