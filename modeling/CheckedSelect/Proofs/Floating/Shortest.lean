import CheckedSelect.Floating.Shortest
import CheckedSelect.Proofs.Floating.Round

/-!
# CheckedSelect.Proofs.Floating.Shortest

The search for the fewest digits, and what the digits stand for.

* `Interval.coarsest_contains`: what is found lies in the interval.
* `Interval.coarsest_eq_iff`: a smaller interval around the same value gives the same digits exactly
  when these lie in it. `Interval.coarsest_scale`: so does an interval in smaller units.
* `Interval.coarsest_start`: it does not matter how far up the search begins.
* `DecimalDigits.toFloating`: a decimal as a number of a format, rounded once;
  `toFloating_eq_iff` says which decimals give a number, and `toFloating_digits` that the shortest
  digits of a number do.
-/

namespace CheckedSelect

/-! ## The search -/

namespace Interval

variable {i j : Interval} {tie : Tie}

/-- A point of a grid. -/
def point (p : Nat × Nat) : Nat := p.1 * Nat.pow 10 p.2

theorem low_le_of_contains {n : Nat} (h : i.contains n = true) : i.low ≤ n := by
  unfold contains at h
  split at h
  · simp only [Bool.and_eq_true, decide_eq_true_eq] at h
    exact h.1
  · simp only [Bool.and_eq_true, decide_eq_true_eq] at h
    exact Nat.le_of_lt h.1

theorem le_high_of_contains {n : Nat} (h : i.contains n = true) : n ≤ i.high := by
  unfold contains at h
  split at h
  · simp only [Bool.and_eq_true, decide_eq_true_eq] at h
    exact h.2
  · simp only [Bool.and_eq_true, decide_eq_true_eq] at h
    exact Nat.le_of_lt h.2

theorem nearer_cases (i : Interval) (tie : Tie) (step below : Nat) :
    i.nearer tie step below = below ∨ i.nearer tie step below = below + 1 := by
  simp only [nearer]
  split
  · exact .inl rfl
  · split
    · exact .inr rfl
    · cases tie with
      | even =>
        show (if below % 2 = 0 then below else below + 1) = _ ∨
          (if below % 2 = 0 then below else below + 1) = _
        split
        · exact .inl rfl
        · exact .inr rfl
      | away => exact .inr rfl

/-- One round of the search. -/
theorem coarsest_succ (i : Interval) (tie : Tie) (k : Nat) :
    i.coarsest tie (k + 1) =
      if i.contains (i.value / Nat.pow 10 (k + 1) * Nat.pow 10 (k + 1)) then
        if i.contains ((i.value / Nat.pow 10 (k + 1) + 1) * Nat.pow 10 (k + 1)) then
          (i.nearer tie (Nat.pow 10 (k + 1)) (i.value / Nat.pow 10 (k + 1)), k + 1)
        else (i.value / Nat.pow 10 (k + 1), k + 1)
      else if i.contains ((i.value / Nat.pow 10 (k + 1) + 1) * Nat.pow 10 (k + 1)) then
        (i.value / Nat.pow 10 (k + 1) + 1, k + 1)
      else i.coarsest tie k := by
  rw [coarsest]
  split <;> simp_all

theorem coarsest_contains (h : i.contains i.value = true) (tie : Tie) (k : Nat) :
    i.contains (point (i.coarsest tie k)) = true := by
  induction k with
  | zero =>
    have hvalue : point (i.value, 0) = i.value := Nat.mul_one i.value
    rw [coarsest, hvalue]
    exact h
  | succ k ih =>
    rw [coarsest_succ]
    split
    · next hbelow =>
      split
      · next habove =>
        rcases i.nearer_cases tie (Nat.pow 10 (k + 1)) (i.value / Nat.pow 10 (k + 1)) with hn | hn
        · rw [hn]
          exact hbelow
        · rw [hn]
          exact habove
      · exact hbelow
    · split
      · next habove => exact habove
      · exact ih

/-- The choice on a grid depends on the value alone, as long as what is chosen stays. -/
theorem coarsest_eq_iff (hvalue : i.value = j.value) (h : i.contains i.value = true)
    (hsub : ∀ n, i.contains n = true → j.contains n = true) (tie : Tie) (k : Nat) :
    i.coarsest tie k = j.coarsest tie k ↔ i.contains (point (j.coarsest tie k)) = true := by
  constructor
  · intro heq
    rw [← heq]
    exact coarsest_contains h tie k
  · intro hpoint
    induction k with
    | zero =>
      rw [coarsest, coarsest, hvalue]
    | succ k ih =>
      have hnearer : i.nearer tie (Nat.pow 10 (k + 1)) (j.value / Nat.pow 10 (k + 1)) =
          j.nearer tie (Nat.pow 10 (k + 1)) (j.value / Nat.pow 10 (k + 1)) := by
        unfold nearer
        rw [hvalue]
      have hbelow := hsub (j.value / Nat.pow 10 (k + 1) * Nat.pow 10 (k + 1))
      have habove := hsub ((j.value / Nat.pow 10 (k + 1) + 1) * Nat.pow 10 (k + 1))
      rw [coarsest_succ] at hpoint ⊢
      rw [coarsest_succ, hvalue, hnearer]
      rcases j.nearer_cases tie (Nat.pow 10 (k + 1)) (j.value / Nat.pow 10 (k + 1)) with hn | hn
      · rw [hn] at hpoint ⊢
        grind [point]
      · rw [hn] at hpoint ⊢
        grind [point]

/-! ## Other units -/

def scale (i : Interval) (factor : Nat) : Interval :=
  ⟨i.low * factor, i.value * factor, i.high * factor, i.closed⟩

theorem contains_scale {factor : Nat} (hfactor : 0 < factor) (n : Nat) :
    (i.scale factor).contains (n * factor) = i.contains n := by
  unfold contains scale
  simp only [Nat.mul_le_mul_right_iff hfactor, Nat.mul_lt_mul_right hfactor]

theorem nearer_scale {factor : Nat} (hfactor : 0 < factor) (tie : Tie) (step below : Nat) :
    (i.scale factor).nearer tie (step * factor) below = i.nearer tie step below := by
  unfold nearer scale
  simp only [← Nat.mul_assoc, ← Nat.sub_mul, Nat.mul_lt_mul_right hfactor]

/-- The value itself is a point of the grid that was the finest. -/
theorem coarsest_scale_zero (h : i.contains i.value = true) (tie : Tie) (places : Nat) :
    (i.scale (Nat.pow 10 places)).coarsest tie places = (i.value, places) := by
  cases places with
  | zero =>
    show (i.value * 1, 0) = _
    rw [Nat.mul_one]
  | succ places =>
    have hpos : 0 < Nat.pow 10 (places + 1) := Nat.pow_pos (by decide)
    have hbelow : (i.scale (Nat.pow 10 (places + 1))).value / Nat.pow 10 (places + 1) = i.value :=
      Nat.mul_div_cancel _ hpos
    have hnearer := nearer_scale (i := i) hpos tie 1 i.value
    have hself : i.nearer tie 1 i.value = i.value := by
      unfold nearer
      simp
    rw [Nat.one_mul] at hnearer
    rw [coarsest_succ, hbelow, contains_scale hpos, if_pos h, hnearer, hself]
    split <;> rfl

theorem coarsest_scale (h : i.contains i.value = true) (tie : Tie) (places k : Nat) :
    (i.scale (Nat.pow 10 places)).coarsest tie (k + places) =
      ((i.coarsest tie k).1, (i.coarsest tie k).2 + places) := by
  induction k with
  | zero => rw [Nat.zero_add, coarsest_scale_zero h, coarsest, Nat.zero_add]
  | succ k ih =>
    have hpos : 0 < Nat.pow 10 places := Nat.pow_pos (by decide)
    have hstep : Nat.pow 10 (k + places + 1) = Nat.pow 10 (k + 1) * Nat.pow 10 places := by
      rw [Nat.add_right_comm]
      exact Nat.pow_add 10 _ _
    have hbelow : (i.scale (Nat.pow 10 places)).value / (Nat.pow 10 (k + 1) * Nat.pow 10 places) =
        i.value / Nat.pow 10 (k + 1) :=
      Nat.mul_div_mul_right _ _ hpos
    rw [Nat.add_right_comm, coarsest_succ, coarsest_succ, hstep, hbelow, nearer_scale hpos,
      ← Nat.mul_assoc, ← Nat.mul_assoc, contains_scale hpos, contains_scale hpos, ih,
      Nat.add_right_comm]
    split
    · split <;> rfl
    · split <;> rfl

/-! ## The start -/

/-- A grid that is coarser than the whole interval is passed over. -/
theorem coarsest_pass (hlow : 0 < i.low) (h : i.contains i.value = true) {k : Nat}
    (hhigh : i.high < Nat.pow 10 (k + 1)) : i.coarsest tie (k + 1) = i.coarsest tie k := by
  have hvalue : i.value < Nat.pow 10 (k + 1) := Nat.lt_of_le_of_lt (le_high_of_contains h) hhigh
  have hzero : i.contains (0 * Nat.pow 10 (k + 1)) = false := by
    rw [Nat.zero_mul, Bool.eq_false_iff]
    intro hcontains
    have hle := low_le_of_contains hcontains
    omega
  have hone : i.contains ((0 + 1) * Nat.pow 10 (k + 1)) = false := by
    rw [Nat.zero_add, Nat.one_mul, Bool.eq_false_iff]
    intro hcontains
    have hle := le_high_of_contains hcontains
    omega
  rw [coarsest_succ, Nat.div_eq_of_lt hvalue, hzero, hone]
  rfl

theorem coarsest_start (hlow : 0 < i.low) (h : i.contains i.value = true) {k : Nat}
    (hhigh : i.high < Nat.pow 10 (k + 1)) (more : Nat) :
    i.coarsest tie (k + more) = i.coarsest tie k := by
  induction more with
  | zero => rfl
  | succ more ih =>
    have hmono : Nat.pow 10 (k + 1) ≤ Nat.pow 10 (k + more + 1) :=
      Nat.pow_le_pow_right (by decide) (by omega)
    have hpass : i.coarsest tie (k + more + 1) = i.coarsest tie (k + more) :=
      coarsest_pass hlow h (by omega)
    rw [← Nat.add_assoc, hpass, ih]

/-- Ten is more than three binary digits, so the search begins high enough. -/
theorem high_lt_start (high : Nat) : high < Nat.pow 10 (Nat.log2 high / 3 + 1) := by
  have hlog : high < Nat.pow 2 (Nat.log2 high + 1) := Nat.lt_log2_self
  calc high < Nat.pow 2 (Nat.log2 high + 1) := hlog
    _ ≤ Nat.pow 2 (3 * (Nat.log2 high / 3 + 1)) := Nat.pow_le_pow_right (by decide) (by omega)
    _ = Nat.pow 8 (Nat.log2 high / 3 + 1) := Nat.pow_mul 2 3 _
    _ ≤ Nat.pow 10 (Nat.log2 high / 3 + 1) := Nat.pow_le_pow_left (by decide) _

theorem coarsest_eq_of_high_lt (hlow : 0 < i.low) (h : i.contains i.value = true) {k : Nat}
    (hhigh : i.high < Nat.pow 10 (k + 1)) :
    i.coarsest tie (Nat.log2 i.high / 3 + 1) = i.coarsest tie k := by
  have hstart : i.high < Nat.pow 10 (Nat.log2 i.high / 3 + 1 + 1) :=
    Nat.lt_of_lt_of_le (high_lt_start i.high) (Nat.pow_le_pow_right (by decide) (by omega))
  rcases Nat.le_total k (Nat.log2 i.high / 3 + 1) with hle | hle
  · obtain ⟨more, hmore⟩ := Nat.exists_eq_add_of_le hle
    rw [hmore]
    exact coarsest_start hlow h hhigh more
  · obtain ⟨more, hmore⟩ := Nat.exists_eq_add_of_le hle
    rw [hmore]
    exact (coarsest_start hlow h hstart more).symm

end Interval

/-! ## The interval of a number -/

namespace FloatFormat

variable {f : FloatFormat} {magnitude : Nat}

theorem unit_pos (f : FloatFormat) : 0 < Nat.pow 5 f.gridBits := Nat.pow_pos (by decide)

/-- The interval holds the numbers that are rounded to the magnitude. -/
theorem contains_interval_iff (n : Nat) :
    (f.interval magnitude).contains n = true ↔
      f.IsNearest n (2 * Nat.pow 5 f.gridBits) magnitude := by
  have htwo : ∀ sum, sum * (2 * Nat.pow 5 f.gridBits) = 2 * (sum * Nat.pow 5 f.gridBits) := by
    intro sum
    rw [Nat.mul_left_comm]
  unfold Interval.contains interval IsNearest
  simp only [htwo, beq_iff_eq]
  split
  · simp only [Bool.and_eq_true, decide_eq_true_eq]
    omega
  · simp only [Bool.and_eq_true, decide_eq_true_eq]
    omega

theorem interval_contains_value (f : FloatFormat) (magnitude : Nat) :
    (f.interval magnitude).contains (f.interval magnitude).value = true := by
  have hvalue : (f.interval magnitude).value =
      f.units magnitude * (2 * Nat.pow 5 f.gridBits) := by
    show 2 * f.units magnitude * Nat.pow 5 f.gridBits = _
    rw [Nat.mul_assoc, Nat.mul_left_comm]
  rw [contains_interval_iff, hvalue]
  exact f.isNearest_units _ magnitude (Nat.mul_pos (by decide) f.unit_pos)

theorem interval_low_pos (hpos : 0 < magnitude) : 0 < (f.interval magnitude).low := by
  have hunits : f.units 0 < f.units magnitude := f.units_strictMono hpos
  exact Nat.mul_pos (by omega) f.unit_pos

end FloatFormat

/-! ## Decimals as numbers of a format -/

namespace DecimalDigits

/-- The number of the format that is nearest to a decimal, with a sign. -/
def toFloating (f : FloatFormat) (negative : Bool) (d : DecimalDigits) : Floating f :=
  Floating.round f negative
    (d.coefficient * Nat.pow 10 d.exponent.toNat * Nat.pow 2 f.leastBits)
    (Nat.pow 10 (-d.exponent).toNat)

/-- Both stand for the same number. -/
def SameValue (a b : DecimalDigits) : Prop :=
  a.coefficient * Nat.pow 10 a.exponent.toNat * Nat.pow 10 (-b.exponent).toNat =
    b.coefficient * Nat.pow 10 b.exponent.toNat * Nat.pow 10 (-a.exponent).toNat

theorem ten_pow_pos (n : Nat) : 0 < Nat.pow 10 n := Nat.pow_pos (by decide)

theorem toFloating_congr (f : FloatFormat) (negative : Bool) {a b : DecimalDigits}
    (h : a.SameValue b) : a.toFloating f negative = b.toFloating f negative := by
  unfold toFloating Floating.round
  rw [Floating.mk.injEq]
  refine ⟨rfl, f.nearest_congr (ten_pow_pos _) (ten_pow_pos _) ?_⟩
  rw [Nat.mul_right_comm, h, Nat.mul_right_comm]

section

variable {f : FloatFormat} {x : Floating f}

theorem toFloating_eq_iff_nearest (d : DecimalDigits) :
    d.toFloating f x.negative = x ↔
      f.nearest (d.coefficient * Nat.pow 10 d.exponent.toNat * Nat.pow 2 f.leastBits)
        (Nat.pow 10 (-d.exponent).toNat) = x.magnitude := by
  obtain ⟨negative, magnitude, hlt⟩ := x
  unfold toFloating Floating.round
  rw [Floating.mk.injEq]
  exact ⟨fun h => h.2, fun h => ⟨rfl, h⟩⟩

/-- A point of a grid is rounded to the number exactly when it lies in the interval. -/
theorem toFloating_eq_iff (hbits : 0 < f.fractionBits) (hfinite : x.isFinite = true)
    (coefficient grid : Nat) :
    (⟨coefficient, grid - f.gridBits⟩ : DecimalDigits).toFloating f x.negative = x ↔
      (f.interval x.magnitude).contains (Interval.point (coefficient, grid)) = true := by
  have hlt : x.magnitude < f.infinity := of_decide_eq_true hfinite
  have hden : 0 < 2 * Nat.pow 5 f.gridBits := Nat.mul_pos (by decide) f.unit_pos
  have hten : Nat.pow 2 f.leastBits * (2 * Nat.pow 5 f.gridBits) = Nat.pow 10 f.gridBits := by
    calc Nat.pow 2 f.leastBits * (2 * Nat.pow 5 f.gridBits)
        = Nat.pow 2 f.gridBits * Nat.pow 5 f.gridBits := by
          rw [← Nat.mul_assoc]
          exact congrArg (· * _) (Nat.pow_succ 2 f.leastBits).symm
      _ = Nat.pow 10 f.gridBits := (Nat.mul_pow 2 5 _).symm
  have hpow : Nat.pow 10 ((grid : Int) - f.gridBits).toNat * Nat.pow 10 f.gridBits =
      Nat.pow 10 grid * Nat.pow 10 (-((grid : Int) - f.gridBits)).toNat := by
    show 10 ^ _ * 10 ^ _ = 10 ^ _ * 10 ^ _
    rw [← Nat.pow_add, ← Nat.pow_add]
    congr 1
    omega
  have hnearest : f.nearest
      (coefficient * Nat.pow 10 ((grid : Int) - f.gridBits).toNat * Nat.pow 2 f.leastBits)
      (Nat.pow 10 (-((grid : Int) - f.gridBits)).toNat) =
      f.nearest (coefficient * Nat.pow 10 grid) (2 * Nat.pow 5 f.gridBits) := by
    apply f.nearest_congr (ten_pow_pos _) hden
    rw [Nat.mul_assoc, hten, Nat.mul_assoc, hpow, ← Nat.mul_assoc]
  rw [toFloating_eq_iff_nearest, hnearest, FloatFormat.nearest_eq_iff hbits hden hlt,
    FloatFormat.contains_interval_iff]
  rfl

end

end DecimalDigits

/-! ## The shortest digits -/

namespace Floating

variable {f : FloatFormat} {x : Floating f}

theorem digits_zero (tie : Tie) (h : x.magnitude = 0) : x.digits tie = ⟨0, 0⟩ := by
  unfold digits isZero
  rw [h]
  rfl

/-- The digits are found from any grid that is coarse enough. -/
theorem digits_eq (tie : Tie) (hpos : 0 < x.magnitude) {k : Nat}
    (hhigh : (f.interval x.magnitude).high < Nat.pow 10 (k + 1)) :
    x.digits tie = ⟨((f.interval x.magnitude).coarsest tie k).1,
      ((f.interval x.magnitude).coarsest tie k).2 - f.gridBits⟩ := by
  have hzero : x.isZero = false := by
    unfold isZero
    rw [beq_eq_false_iff_ne]
    omega
  have hstart : (f.interval x.magnitude).coarsest tie
      (Nat.log2 (f.interval x.magnitude).high / 3 + 1) = (f.interval x.magnitude).coarsest tie k :=
    Interval.coarsest_eq_of_high_lt (FloatFormat.interval_low_pos hpos)
      (f.interval_contains_value x.magnitude) hhigh
  unfold digits
  rw [hzero, if_neg Bool.false_ne_true, ← hstart]

/-- The shortest digits of a number are read as the number again. -/
theorem toFloating_digits (hbits : 0 < f.fractionBits) (hfinite : x.isFinite = true) (tie : Tie) :
    (x.digits tie).toFloating f x.negative = x := by
  rcases Nat.eq_zero_or_pos x.magnitude with hzero | hpos
  · have hlt : x.magnitude < f.infinity := of_decide_eq_true hfinite
    rw [digits_zero tie hzero, DecimalDigits.toFloating_eq_iff_nearest]
    apply FloatFormat.nearest_units hbits (DecimalDigits.ten_pow_pos _) hlt
    rw [hzero, FloatFormat.units_zero]
    simp
  · have hhigh := Interval.high_lt_start (f.interval x.magnitude).high
    rw [digits_eq tie hpos hhigh, DecimalDigits.toFloating_eq_iff hbits hfinite]
    exact Interval.coarsest_contains (f.interval_contains_value x.magnitude) tie _

end Floating

end CheckedSelect
