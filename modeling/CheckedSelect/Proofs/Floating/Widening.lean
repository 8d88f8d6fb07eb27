import CheckedSelect.Proofs.Floating.Shortest

/-!
# CheckedSelect.Proofs.Floating.Widening

A number of a narrow format in a wide one, and the shortest digits of the two.

* `Widens`: a format that has all numbers of another one, and all half-way points between them.
* `exists_convert`: widening changes nothing.
* `interval_within`: the interval of the wide number lies inside that of the narrow one.
* `digits_convert_eq_iff`: so the shortest digits are the same exactly when those of the narrow
  number are read as the wide one.
-/

namespace CheckedSelect
namespace FloatFormat

variable {f g : FloatFormat}

/-- The wide format has at least one more fraction bit, smaller least numbers, and no smaller range. -/
structure Widens (f g : FloatFormat) : Prop where
  fractionBits_pos : 0 < f.fractionBits
  fractionBits_lt : f.fractionBits < g.fractionBits
  leastBits_lt : f.leastBits < g.leastBits
  range : f.units f.infinity * Nat.pow 2 (g.leastBits - f.leastBits) ≤ g.units g.infinity

theorem binary32_widens : Widens binary32 binary64 where
  fractionBits_pos := by decide
  fractionBits_lt := by decide
  leastBits_lt := by decide
  range := by decide +kernel

/-- How many units of the wide format make one of the narrow format, as a power of two. -/
def ratioBits (f g : FloatFormat) : Nat := g.leastBits - f.leastBits

namespace Widens

variable (h : Widens f g)
include h

theorem ratioBits_pos : 0 < ratioBits f g := Nat.sub_pos_of_lt h.leastBits_lt

theorem leastBits_eq : g.leastBits = f.leastBits + ratioBits f g :=
  (Nat.add_sub_cancel' (Nat.le_of_lt h.leastBits_lt)).symm

theorem gridBits_eq : g.gridBits = f.gridBits + ratioBits f g := by
  rw [gridBits, gridBits, h.leastBits_eq, Nat.add_right_comm]

theorem binade_le : 2 * f.binade ≤ g.binade := by
  calc 2 * f.binade = Nat.pow 2 (f.fractionBits + 1) := (Nat.pow_succ' : 2 ^ _ = 2 * 2 ^ _).symm
    _ ≤ Nat.pow 2 g.fractionBits := Nat.pow_le_pow_right (by decide) h.fractionBits_lt

/-! ## Numbers and half-way points -/

theorem exists_units (magnitude : Nat) :
    ∃ wide, g.units wide = f.units magnitude * Nat.pow 2 (ratioBits f g) := by
  obtain ⟨shift, steps, hparts, hlt⟩ := f.exists_parts magnitude
  have hle := h.binade_le
  obtain ⟨wide, hwide⟩ : ∃ wide, g.units wide = steps * Nat.pow 2 (shift + ratioBits f g) :=
    exists_units_eq (by omega)
  have hpow : Nat.pow 2 (shift + ratioBits f g) = Nat.pow 2 shift * Nat.pow 2 (ratioBits f g) :=
    Nat.pow_add 2 _ _
  exact ⟨wide, by rw [hwide, hparts.units_eq, hpow, Nat.mul_assoc]⟩

/-- Twice a half-way point, in units of the wide format. -/
theorem exists_halfway (magnitude : Nat) :
    ∃ wide, 2 * g.units wide =
      (f.units magnitude + f.units (magnitude + 1)) * Nat.pow 2 (ratioBits f g) := by
  obtain ⟨shift, steps, hparts, hlt⟩ := f.exists_parts magnitude
  have hle := h.binade_le
  have hpos := h.ratioBits_pos
  obtain ⟨wide, hwide⟩ :
      ∃ wide, g.units wide = (2 * steps + 1) * Nat.pow 2 (shift + (ratioBits f g - 1)) :=
    exists_units_eq (by omega)
  have hpow : 2 * Nat.pow 2 (shift + (ratioBits f g - 1)) =
      Nat.pow 2 shift * Nat.pow 2 (ratioBits f g) := by
    calc 2 * Nat.pow 2 (shift + (ratioBits f g - 1))
        = Nat.pow 2 (shift + (ratioBits f g - 1) + 1) := (Nat.pow_succ' : 2 ^ _ = 2 * 2 ^ _).symm
      _ = Nat.pow 2 (shift + ratioBits f g) := by
        rw [Nat.add_assoc, Nat.sub_add_cancel hpos]
      _ = Nat.pow 2 shift * Nat.pow 2 (ratioBits f g) := Nat.pow_add 2 _ _
  refine ⟨wide, ?_⟩
  rw [hwide, hparts.units_eq, hparts.units_succ hlt, ← Nat.add_mul, Nat.mul_left_comm, hpow,
    ← Nat.mul_assoc, show 2 * steps + 1 = steps + (steps + 1) by omega]

/-! ## Intervals -/

/-- The units of the two intervals, as whole numbers. -/
theorem scale_unit (n : Nat) :
    n * Nat.pow 5 f.gridBits * Nat.pow 10 (ratioBits f g) =
      n * Nat.pow 2 (ratioBits f g) * Nat.pow 5 g.gridBits := by
  have hfive : Nat.pow 5 g.gridBits = Nat.pow 5 f.gridBits * Nat.pow 5 (ratioBits f g) := by
    rw [h.gridBits_eq]
    exact Nat.pow_add 5 _ _
  have hten : Nat.pow 10 (ratioBits f g) =
      Nat.pow 2 (ratioBits f g) * Nat.pow 5 (ratioBits f g) := Nat.mul_pow 2 5 _
  rw [hfive, hten]
  ac_rfl

/-- A half-way point, as a decimal and as a number of the wide format. -/
theorem exists_halfway_point (magnitude : Nat) :
    ∃ wide, g.units wide * Nat.pow 10 f.gridBits =
      (f.interval magnitude).high * Nat.pow 2 g.leastBits := by
  obtain ⟨wide, hwide⟩ := h.exists_halfway magnitude
  refine ⟨wide, Nat.eq_of_mul_eq_mul_left Nat.two_pos ?_⟩
  have hten : Nat.pow 10 f.gridBits = Nat.pow 2 f.gridBits * Nat.pow 5 f.gridBits :=
    Nat.mul_pow 2 5 _
  have htwo : Nat.pow 2 (ratioBits f g) * Nat.pow 2 f.gridBits = 2 * Nat.pow 2 g.leastBits := by
    have hgrid : Nat.pow 2 f.gridBits = Nat.pow 2 f.leastBits * 2 := Nat.pow_succ 2 f.leastBits
    have hleast : Nat.pow 2 g.leastBits = Nat.pow 2 f.leastBits * Nat.pow 2 (ratioBits f g) := by
      rw [h.leastBits_eq]
      exact Nat.pow_add 2 _ _
    rw [hgrid, hleast]
    ac_rfl
  calc 2 * (g.units wide * Nat.pow 10 f.gridBits)
      = (f.units magnitude + f.units (magnitude + 1)) * Nat.pow 5 f.gridBits *
        (Nat.pow 2 (ratioBits f g) * Nat.pow 2 f.gridBits) := by
        rw [← Nat.mul_assoc, hwide, hten]
        ac_rfl
    _ = 2 * ((f.interval magnitude).high * Nat.pow 2 g.leastBits) := by
        rw [htwo]
        exact Nat.mul_left_comm _ _ _

section

variable {magnitude wide : Nat}
  (hwide : g.units wide = f.units magnitude * Nat.pow 2 (ratioBits f g))
include hwide

theorem value_eq :
    ((f.interval magnitude).scale (Nat.pow 10 (ratioBits f g))).value = (g.interval wide).value := by
  show 2 * f.units magnitude * Nat.pow 5 f.gridBits * Nat.pow 10 (ratioBits f g) =
    2 * g.units wide * Nat.pow 5 g.gridBits
  rw [h.scale_unit, hwide, Nat.mul_assoc 2]

/-- The half-way point below is a number of the wide format, and so at most the next one below. -/
theorem low_lt (hpos : 0 < magnitude) :
    ((f.interval magnitude).scale (Nat.pow 10 (ratioBits f g))).low < (g.interval wide).low := by
  obtain ⟨halfway, hhalfway⟩ := h.exists_halfway (magnitude - 1)
  rw [Nat.sub_add_cancel hpos] at hhalfway
  have hbelow : f.units (magnitude - 1) < f.units magnitude := f.units_strictMono (by omega)
  have hlt : 2 * g.units halfway < 2 * g.units wide := by
    rw [hhalfway, hwide, ← Nat.mul_assoc]
    exact Nat.mul_lt_mul_of_pos_right (by omega) (Nat.two_pow_pos _)
  have horder : halfway < wide := g.units_strictMono.lt_iff_lt.1 (by omega)
  have hprevious : g.units halfway ≤ g.units (wide - 1) :=
    g.units_strictMono.monotone (Nat.le_sub_one_of_lt horder)
  show (f.units (magnitude - 1) + f.units magnitude) * Nat.pow 5 f.gridBits *
    Nat.pow 10 (ratioBits f g) < (g.units (wide - 1) + g.units wide) * Nat.pow 5 g.gridBits
  rw [h.scale_unit, ← hhalfway]
  exact Nat.mul_lt_mul_of_pos_right (by omega) g.unit_pos

/-- So is the half-way point above, and at least the next one above. -/
theorem high_lt :
    (g.interval wide).high < ((f.interval magnitude).scale (Nat.pow 10 (ratioBits f g))).high := by
  obtain ⟨halfway, hhalfway⟩ := h.exists_halfway magnitude
  have habove := f.units_lt_succ magnitude
  have hlt : 2 * g.units wide < 2 * g.units halfway := by
    rw [hhalfway, hwide, ← Nat.mul_assoc]
    exact Nat.mul_lt_mul_of_pos_right (by omega) (Nat.two_pow_pos _)
  have horder : wide < halfway := g.units_strictMono.lt_iff_lt.1 (by omega)
  have hnext : g.units (wide + 1) ≤ g.units halfway := g.units_strictMono.monotone horder
  show (g.units wide + g.units (wide + 1)) * Nat.pow 5 g.gridBits <
    (f.units magnitude + f.units (magnitude + 1)) * Nat.pow 5 f.gridBits *
      Nat.pow 10 (ratioBits f g)
  rw [h.scale_unit, ← hhalfway]
  exact Nat.mul_lt_mul_of_pos_right (by omega) g.unit_pos

theorem contains_of_contains (hpos : 0 < magnitude) {n : Nat}
    (hn : (g.interval wide).contains n = true) :
    ((f.interval magnitude).scale (Nat.pow 10 (ratioBits f g))).contains n = true := by
  have hlow := h.low_lt hwide hpos
  have hhigh := h.high_lt hwide
  have hle := Interval.low_le_of_contains hn
  have hge := Interval.le_high_of_contains hn
  unfold Interval.contains
  split
  · simp only [Bool.and_eq_true, decide_eq_true_eq]
    omega
  · simp only [Bool.and_eq_true, decide_eq_true_eq]
    omega

/-- From one grid on, the search finds the same digits for the wide number exactly when those of the
narrow one lie in its interval. -/
theorem coarsest_eq_iff (hpos : 0 < magnitude) (tie : Tie) (k : Nat) :
    (g.interval wide).coarsest tie (k + ratioBits f g) =
      (((f.interval magnitude).coarsest tie k).1,
        ((f.interval magnitude).coarsest tie k).2 + ratioBits f g) ↔
    (g.interval wide).contains (Interval.point (((f.interval magnitude).coarsest tie k).1,
      ((f.interval magnitude).coarsest tie k).2 + ratioBits f g)) = true := by
  rw [← Interval.coarsest_scale (f.interval_contains_value magnitude) tie (ratioBits f g) k]
  exact Interval.coarsest_eq_iff (h.value_eq hwide).symm (g.interval_contains_value wide)
    (fun n hn => h.contains_of_contains hwide hpos hn) tie _

/-- A grid that is coarse enough for the narrow number is so for the wide one. -/
theorem high_lt_pow {k : Nat} (hhigh : (f.interval magnitude).high < Nat.pow 10 (k + 1)) :
    (g.interval wide).high < Nat.pow 10 (k + ratioBits f g + 1) := by
  calc (g.interval wide).high
      < (f.interval magnitude).high * Nat.pow 10 (ratioBits f g) := h.high_lt hwide
    _ < Nat.pow 10 (k + 1) * Nat.pow 10 (ratioBits f g) :=
      Nat.mul_lt_mul_of_pos_right hhigh (DecimalDigits.ten_pow_pos _)
    _ = Nat.pow 10 (k + ratioBits f g + 1) := by
      rw [Nat.add_right_comm]
      exact (Nat.pow_add 10 _ _).symm

end

/-! ## Widened numbers -/

/-- A finite number is a number of the wide format as it is. -/
theorem convert_spec {x : Floating f} (hfinite : x.isFinite = true) :
    (x.convert g).negative = x.negative ∧ (x.convert g).isFinite = true ∧
    g.units (x.convert g).magnitude = f.units x.magnitude * Nat.pow 2 (ratioBits f g) := by
  obtain ⟨wide, hwide⟩ := h.exists_units x.magnitude
  have hlt : x.magnitude < f.infinity := of_decide_eq_true hfinite
  have hrange : g.units wide < g.units g.infinity := by
    calc g.units wide = f.units x.magnitude * Nat.pow 2 (ratioBits f g) := hwide
      _ < f.units f.infinity * Nat.pow 2 (ratioBits f g) :=
        Nat.mul_lt_mul_of_pos_right (f.units_strictMono hlt) (Nat.two_pow_pos _)
      _ ≤ g.units g.infinity := h.range
  have hwidefinite : wide < g.infinity := g.units_strictMono.lt_iff_lt.1 hrange
  have hpow : Nat.pow 2 g.leastBits = Nat.pow 2 (ratioBits f g) * Nat.pow 2 f.leastBits := by
    rw [h.leastBits_eq, Nat.add_comm]
    exact Nat.pow_add 2 _ _
  have hnearest : g.nearest (x.units * Nat.pow 2 g.leastBits) (Nat.pow 2 f.leastBits) = wide := by
    apply nearest_units (Nat.lt_trans h.fractionBits_pos h.fractionBits_lt) (Nat.two_pow_pos _)
      hwidefinite
    rw [hwide, hpow, ← Nat.mul_assoc]
    rfl
  have hconvert : x.convert g =
      ⟨x.negative, wide, Nat.lt_trans hwidefinite g.infinity_lt_magnitudes⟩ := by
    unfold Floating.convert
    rw [if_pos hfinite]
    unfold Floating.round
    rw [Floating.mk.injEq]
    exact ⟨rfl, hnearest⟩
  rw [hconvert]
  exact ⟨rfl, decide_eq_true hwidefinite, hwide⟩

theorem digits_convert_of_zero {x : Floating f} (hfinite : x.isFinite = true)
    (hzero : x.magnitude = 0) (tie : Tie) : (x.convert g).digits tie = x.digits tie := by
  obtain ⟨-, -, hwide⟩ := h.convert_spec hfinite
  have hwidezero : (x.convert g).magnitude = 0 := by
    rw [hzero, f.units_zero, Nat.zero_mul, ← g.units_zero] at hwide
    exact g.units_strictMono.injective hwide
  rw [Floating.digits_zero tie hzero, Floating.digits_zero tie hwidezero]

/-- Both searches begin on one grid, which the wide format counts from further down. -/
theorem digits_convert_of_read {x : Floating f} (hfinite : x.isFinite = true)
    (hpos : 0 < x.magnitude) {tie : Tie}
    (hread : (x.digits tie).toFloating g x.negative = x.convert g) :
    (x.convert g).digits tie = x.digits tie := by
  obtain ⟨hnegative, hwidefinite, hwide⟩ := h.convert_spec hfinite
  have hbits : 0 < g.fractionBits := Nat.lt_trans h.fractionBits_pos h.fractionBits_lt
  have hwidepos : 0 < (x.convert g).magnitude := by
    have hunits : f.units 0 < f.units x.magnitude := f.units_strictMono hpos
    rw [← g.units_strictMono.lt_iff_lt, g.units_zero, hwide]
    exact Nat.mul_pos (by omega) (Nat.two_pow_pos _)
  have hhigh := Interval.high_lt_start (f.interval x.magnitude).high
  generalize Nat.log2 (f.interval x.magnitude).high / 3 = k at hhigh
  have hcoarsest := (h.coarsest_eq_iff hwide hpos tie k).2
  rw [Floating.digits_eq tie hpos hhigh] at hread ⊢
  rw [Floating.digits_eq tie hwidepos (h.high_lt_pow hwide hhigh)]
  generalize (f.interval x.magnitude).coarsest tie k = found at hcoarsest hread ⊢
  have hexponent : (found.2 : Int) - f.gridBits = (found.2 + ratioBits f g : Nat) - g.gridBits := by
    rw [h.gridBits_eq]
    omega
  rw [hexponent, ← hnegative, DecimalDigits.toFloating_eq_iff hbits hwidefinite] at hread
  rw [hcoarsest hread, hexponent]

theorem digits_convert_eq_iff {x : Floating f} (hfinite : x.isFinite = true) (tie : Tie) :
    (x.convert g).digits tie = x.digits tie ↔
      (x.digits tie).toFloating g x.negative = x.convert g := by
  constructor
  · intro heq
    obtain ⟨hnegative, hwidefinite, -⟩ := h.convert_spec hfinite
    have hbits : 0 < g.fractionBits := Nat.lt_trans h.fractionBits_pos h.fractionBits_lt
    have hread := Floating.toFloating_digits hbits hwidefinite tie
    rw [heq, hnegative] at hread
    exact hread
  · intro hread
    rcases Nat.eq_zero_or_pos x.magnitude with hzero | hpos
    · exact h.digits_convert_of_zero hfinite hzero tie
    · exact h.digits_convert_of_read hfinite hpos hread

end Widens
end FloatFormat
end CheckedSelect
