import CheckedSelect.Proofs.Json.FloatText
import CheckedSelect.Proofs.Json.Scaled

/-!
# CheckedSelect.Proofs.Json.LimitedPrecision

How far from the nearest float the reader's arithmetic ends.

* `Close`: few floats lie between two.
* `scaled?_of_middle`, `scaled?_of_far`: one multiplication or division, or two divisions for very
  small numbers.
* `scaled?_close`: either way what is read is finite and close to the float that is nearest to the
  decimal, unless that is one of the largest (`scaled?_top`).
* `scaled?_wide`, `scaled?_wide_exact`: so the digits in the text of a wide float are read as a float
  close to it, and as the same float if they are few and their power of ten is small.
-/

namespace CheckedSelect
namespace Json

open FloatFormat

/-- Finite, not negative and at most four floats away from a magnitude. -/
structure Close (magnitude : Nat) (z : Binary64) : Prop where
  positive : z.negative = false
  finite : z.isFinite = true
  le_add : z.magnitude ≤ magnitude + 4
  add_ge : magnitude ≤ z.magnitude + 4

instance (magnitude : Nat) (z : Binary64) : Decidable (Close magnitude z) :=
  decidable_of_iff (z.negative = false ∧ z.isFinite = true ∧ z.magnitude ≤ magnitude + 4 ∧
      magnitude ≤ z.magnitude + 4)
    ⟨fun ⟨hsign, hfinite, hle, hge⟩ => ⟨hsign, hfinite, hle, hge⟩,
      fun h => ⟨h.positive, h.finite, h.le_add, h.add_ge⟩⟩

/-- A quotient that differs by few parts from one that is nearest to a magnitude is close to it when
it is rounded. -/
theorem close_of_within {num den num' den' magnitude n : Nat} (hden : 0 < den) (hden' : 0 < den')
    (hnearest : binary64.IsNearest num den magnitude) (hn : n ≤ 3)
    (hwithin : binary64.Within n (num' * den) (num * den'))
    (hroom : magnitude + 4 < binary64.infinity) {z : Binary64} (hpositive : z.negative = false)
    (hz : z.magnitude = binary64.nearest num' den') : Close magnitude z := by
  have hrounded : binary64.IsNearest num' den' (binary64.rounded num' den') :=
    isNearest_rounded (by decide) hden'
  have hparts : n * (2 * n + 3) < 4 * binary64.binade := by
    have hbinade : 27 < 4 * binary64.binade := by decide
    have hle : n * (2 * n + 3) ≤ 3 * (2 * 3 + 3) := Nat.mul_le_mul hn (by omega)
    omega
  have habove := hnearest.le_add hden hden' hrounded hwithin hparts
  have hbelow := hrounded.le_add hden' hden hnearest hwithin.symm hparts
  rw [nearest_eq_min] at hz
  refine ⟨hpositive, decide_eq_true ?_, ?_, ?_⟩
  · omega
  · omega
  · omega

/-- Digits as a float, divided by the greatest power and then by what is left of their own. -/
def rereadTwice (d : DecimalDigits) : Binary64 :=
  rescaled (rescaled (Floating.ofNat .binary64 d.coefficient) (-greatestPower))
    (d.exponent + greatestPower)

theorem negative_rereadTwice (d : DecimalDigits) : (rereadTwice d).negative = false :=
  negative_rescaled (negative_rescaled (Floating.negative_ofNat _ _) _) _

theorem units_infinity_le : binary64.units binary64.infinity * Nat.pow 10 0 ≤
    Nat.pow 10 (greatestPower + 1) * one := by
  decide +kernel

/-- With next to nothing to divide there are few decimals. -/
theorem rereadTwice_tiny : ∀ coefficient < 3, ∀ places < 16, 0 < coefficient →
    Close (binary64.nearest (coefficient * one) (Nat.pow 10 (309 + places)))
      (rereadTwice ⟨coefficient, -(309 + places : Nat)⟩) := by
  decide +kernel

section

variable {d : DecimalDigits} {magnitude : Nat}

/-- The magnitude is nearest to the decimal. -/
def IsNearestTo (d : DecimalDigits) (magnitude : Nat) : Prop :=
  binary64.IsNearest (d.coefficient * Nat.pow 10 d.exponent.toNat * one)
    (Nat.pow 10 (-d.exponent).toNat) magnitude

theorem isNearestTo_of_toFloating {y : Binary64} (hfinite : y.isFinite = true)
    (h : d.toFloating .binary64 y.negative = y) : IsNearestTo d y.magnitude := by
  have hmagnitude := congrArg Floating.magnitude h
  rw [DecimalDigits.magnitude_toFloating, ← one_eq] at hmagnitude
  exact (nearest_eq_iff (by decide) (DecimalDigits.ten_pow_pos _)
    (of_decide_eq_true hfinite)).1 hmagnitude

variable (hpos : 0 < d.coefficient) (hword : d.coefficient < Nat.pow 2 64)
include hpos hword

theorem coefficient_within :
    binary64.Within 1 ((Floating.ofNat .binary64 d.coefficient).units * 1)
      (d.coefficient * one) := by
  rw [Nat.mul_one]
  exact ofNat_within hpos
    (le_greatestPower (Nat.le_trans (Nat.le_of_lt hword) (by decide)) (k := 20) (by decide))

/-- The first of two divisions. What it leaves is not too small to have all its digits, unless there
is next to nothing to divide. -/
theorem first_division_within (hdigits : 3 ≤ d.coefficient) :
    binary64.Within 3
      ((rescaled (Floating.ofNat .binary64 d.coefficient) (-greatestPower)).units *
        Nat.pow 10 greatestPower) (d.coefficient * one) := by
  have habs : (-(greatestPower : Int)).natAbs = greatestPower := by omega
  have hbelow : (-(-(greatestPower : Int))).toNat = greatestPower := by omega
  have habove : (-(greatestPower : Int)).toNat = 0 := by omega
  have hwhole : d.coefficient * Nat.pow 10 0 = d.coefficient := Nat.mul_one _
  have hlarge : 2 * d.coefficient ≤ Nat.pow 10 greatestPower := by
    refine le_greatestPower (k := 20) ?_ (by decide)
    calc 2 * d.coefficient ≤ 2 * Nat.pow 2 64 := Nat.mul_le_mul_left 2 (Nat.le_of_lt hword)
      _ ≤ Nat.pow 10 20 := by decide
  have hsmall : 2 * binary64.binade * (binary64.binade * Nat.pow 10 greatestPower) ≤
      (2 * binary64.binade - (1 + 1)) * (d.coefficient * one) := by
    have hrange : 2 * binary64.binade * (binary64.binade * Nat.pow 10 greatestPower) ≤
        (2 * binary64.binade - (1 + 1)) * (3 * one) := by decide +kernel
    exact Nat.le_trans hrange (Nat.mul_le_mul_left _ (Nat.mul_le_mul_right one hdigits))
  have hstep := rescaled_within (Nat.le_of_eq habs) Nat.one_pos (by decide)
    (coefficient_within hpos hword)
  rw [hbelow, habove, hwhole, Nat.mul_one] at hstep
  exact (hstep hlarge hsmall).2

theorem isZero_ofNat : (Floating.ofNat .binary64 d.coefficient).isZero = false := by
  have hunits := (coefficient_within hpos hword).symm.le_double (by decide)
  have hone := Nat.mul_pos hpos one_pos
  rw [Floating.isZero, beq_eq_false_iff_ne]
  intro hmagnitude
  rw [Floating.units, hmagnitude, units_zero] at hunits
  omega

theorem scaled?_eq_twice (hfar : d.exponent < -greatestPower) (hleast : -324 ≤ d.exponent)
    (hfinite : (rereadTwice d).isFinite = true) :
    scaled? (Floating.ofNat .binary64 d.coefficient) d.exponent = some (rereadTwice d) := by
  have hgreatest : greatestPower = 308 := rfl
  have habs : (-(greatestPower : Int)).natAbs = greatestPower := by omega
  have hdivided : rescaled (Floating.ofNat .binary64 d.coefficient) (-greatestPower) =
      (Floating.ofNat .binary64 d.coefficient).div (powerOfTen greatestPower) := by
    unfold rescaled
    rw [if_pos (by omega), habs]
  rw [scaled?_far hfar (isZero_ofNat hpos hword), ← hdivided]
  exact scaled?_eq_rescaled (by omega) hfinite

variable (hnearest : IsNearestTo d magnitude) (hroom : magnitude + 4 < binary64.infinity)
include hnearest hroom

theorem scaled?_of_middle (hexponent : d.exponent.natAbs ≤ greatestPower) :
    ∃ z, scaled? (Floating.ofNat .binary64 d.coefficient) d.exponent = some z ∧
      Close magnitude z := by
  obtain ⟨num, den, hden, hmagnitude, hwithin⟩ :=
    rescaled_spec hexponent (coefficient_within hpos hword)
  have herror := powerError_le d.exponent.natAbs
  rw [Nat.mul_one] at hwithin
  have hclose := close_of_within (DecimalDigits.ten_pow_pos _) hden hnearest (by omega) hwithin
    hroom (negative_reread d) hmagnitude
  exact ⟨_, scaled?_eq_rescaled hexponent hclose.finite, hclose⟩

/-- The second of two divisions is by a small power of ten, which is no further off. -/
theorem scaled?_of_far (hdigits : 3 ≤ d.coefficient) (hfar : d.exponent < -greatestPower)
    (hleast : -324 ≤ d.exponent) :
    ∃ z, scaled? (Floating.ofNat .binary64 d.coefficient) d.exponent = some z ∧
      Close magnitude z := by
  have hgreatest : greatestPower = 308 := rfl
  have hsmall : (d.exponent + greatestPower).natAbs ≤ exactPower := by
    unfold exactPower
    omega
  have hle : (d.exponent + greatestPower).natAbs ≤ greatestPower :=
    Nat.le_trans hsmall (by decide)
  obtain ⟨num, den, hden, hmagnitude, hwithin⟩ :=
    rescaled_spec hle (first_division_within hpos hword hdigits)
  have hexact : powerError (d.exponent + greatestPower).natAbs = 0 := if_pos hsmall
  have habove : (d.exponent + greatestPower).toNat = d.exponent.toNat := by omega
  have hbelow : (-(d.exponent + greatestPower)).toNat + greatestPower = (-d.exponent).toNat := by
    omega
  rw [hexact, habove, ten_pow_add, hbelow] at hwithin
  have hclose := close_of_within (DecimalDigits.ten_pow_pos _) hden hnearest (by omega) hwithin
    hroom (negative_rereadTwice d) hmagnitude
  exact ⟨_, scaled?_eq_twice hpos hword hfar hleast hclose.finite, hclose⟩

theorem scaled?_of_tiny (hdigits : d.coefficient < 3) (hfar : d.exponent < -greatestPower)
    (hleast : -324 ≤ d.exponent) :
    ∃ z, scaled? (Floating.ofNat .binary64 d.coefficient) d.exponent = some z ∧
      Close magnitude z := by
  have hgreatest : greatestPower = 308 := rfl
  obtain ⟨places, hplaces, hlt⟩ : ∃ places : Nat, d.exponent = -(309 + places : Nat) ∧ places < 16 :=
    ⟨(-309 - d.exponent).toNat, by omega, by omega⟩
  have hclose := rereadTwice_tiny d.coefficient hdigits places hlt hpos
  have hbelow : (-d.exponent).toNat = 309 + places := by omega
  have habove : d.exponent.toNat = 0 := by omega
  have hone : d.coefficient * Nat.pow 10 0 * one = d.coefficient * one := by
    show d.coefficient * 1 * one = _
    rw [Nat.mul_one]
  unfold IsNearestTo at hnearest
  rw [hbelow, habove, hone, ← nearest_eq_iff (by decide) (DecimalDigits.ten_pow_pos _) (by omega)]
    at hnearest
  rw [hnearest, ← hplaces] at hclose
  exact ⟨_, scaled?_eq_twice hpos hword hfar hleast hclose.finite, hclose⟩

/-- What is read is close to the float that is nearest to the decimal. -/
theorem scaled?_close (hleast : -324 ≤ d.exponent) :
    ∃ z, scaled? (Floating.ofNat .binary64 d.coefficient) d.exponent = some z ∧
      Close magnitude z := by
  have hgreatest : greatestPower = 308 := rfl
  rcases Int.lt_or_le d.exponent (-greatestPower) with hfar | hnear
  · rcases Nat.lt_or_ge d.coefficient 3 with htiny | hdigits
    · exact scaled?_of_tiny hpos hword hnearest hroom htiny hfar hleast
    · exact scaled?_of_far hpos hword hnearest hroom hdigits hfar hleast
  · refine scaled?_of_middle hpos hword hnearest hroom ?_
    -- A larger power of ten is beyond every float.
    by_contra hlarge
    have hbelow : (-d.exponent).toNat = 0 := by omega
    have habove : greatestPower + 1 ≤ d.exponent.toNat := by omega
    have hbeyond : binary64.units binary64.infinity * Nat.pow 10 (-d.exponent).toNat ≤
        d.coefficient * Nat.pow 10 d.exponent.toNat * one := by
      have hdigits : Nat.pow 10 d.exponent.toNat ≤ d.coefficient * Nat.pow 10 d.exponent.toNat :=
        Nat.le_mul_of_pos_left _ hpos
      have htop := units_infinity_le
      have hpowers := Nat.mul_le_mul_right one (Nat.le_trans (ten_pow_le habove) hdigits)
      rw [hbelow]
      omega
    have hle := hnearest.le_of_ge (DecimalDigits.ten_pow_pos _) hbeyond
    omega

end

/-- Few digits with a small power of ten are read as the nearest float. -/
theorem scaled?_exact {d : DecimalDigits} (hdigits : d.coefficient ≤ Nat.pow 2 53)
    (hexponent : d.exponent.natAbs ≤ exactPower)
    (hfinite : (d.toFloating .binary64 false).isFinite = true) :
    scaled? (Floating.ofNat .binary64 d.coefficient) d.exponent =
      some (d.toFloating .binary64 false) := by
  rw [← reread_exact hdigits hexponent] at hfinite ⊢
  exact scaled?_eq_rescaled (Nat.le_trans hexponent (by decide)) hfinite

/-! ## The largest floats -/

/-- A finite float with this many larger ones. -/
def fromTop (larger : Nat) : Binary64 :=
  ⟨false, binary64.infinity - 1 - larger,
    Nat.lt_of_le_of_lt (Nat.le_trans (Nat.sub_le _ _) (Nat.sub_le _ _))
      binary64.infinity_lt_magnitudes⟩

/-- What is read for the largest floats is not infinity. -/
theorem reread_top : ∀ larger < 4, Close (fromTop larger).magnitude
    (reread (fromTop larger).documentDigits) ∧
      (fromTop larger).documentDigits.exponent.natAbs ≤ greatestPower := by
  decide +kernel

theorem scaled?_top {x : Binary64} (hfinite : x.isFinite = true)
    (hlarge : binary64.infinity ≤ x.magnitude + 4) :
    ∃ z, scaled? (Floating.ofNat .binary64 x.documentDigits.coefficient)
        x.documentDigits.exponent = some z ∧ Close x.magnitude z := by
  have hlt : x.magnitude < binary64.infinity := of_decide_eq_true hfinite
  obtain ⟨larger, hlarger, hless⟩ :
      ∃ larger, x.magnitude = (fromTop larger).magnitude ∧ larger < 4 := by
    refine ⟨binary64.infinity - 1 - x.magnitude, ?_, by omega⟩
    show x.magnitude = binary64.infinity - 1 - (binary64.infinity - 1 - x.magnitude)
    omega
  obtain ⟨hclose, hexponent⟩ := reread_top larger hless
  rw [Floating.documentDigits_congr hlarger, hlarger]
  exact ⟨_, scaled?_eq_rescaled hexponent hclose.finite, hclose⟩

/-! ## All floats -/

theorem exponent_ge (x : Binary64) : -324 ≤ x.documentDigits.exponent := by
  rcases x.documentDigits_cases 16 rfl with hsame | ⟨zeros, -, -, -, hread⟩
  · rw [hsame]
    rcases Nat.eq_zero_or_pos x.magnitude with hzero | hpos
    · rw [Floating.digits_zero .even hzero]
      decide
    · obtain ⟨coefficient, grid, hdigits, -, hgrid⟩ := x.exists_grid hpos .even
      obtain ⟨shift, steps, hparts, hlt⟩ := binary64.exists_parts x.magnitude
      have hwide := interval_wide hparts hlt hpos
      have hleast : 2 * Nat.pow 10 751 < 3 * Nat.pow 5 binary64.gridBits := by decide +kernel
      have hstep : Nat.pow 5 binary64.gridBits ≤ binary64.halfStep shift :=
        Nat.le_mul_of_pos_left _ (Nat.two_pow_pos shift)
      have hcoarse := hgrid 751
      generalize Nat.pow 10 751 = power at hleast hcoarse
      specialize hcoarse (by omega)
      have hbits : binary64.gridBits = 1075 := by decide
      rw [hdigits]
      show (-324 : Int) ≤ grid - binary64.gridBits
      omega
  · rw [hread]
    show (-324 : Int) ≤ -1
    decide

/-- What is read for a wide float of few digits and a small power of ten is the same float. -/
theorem scaled?_wide_exact {x : Binary64} (hfinite : x.isFinite = true)
    (hdigits : x.documentDigits.coefficient ≤ Nat.pow 2 53)
    (hexponent : x.documentDigits.exponent.natAbs ≤ exactPower) :
    ∃ z, scaled? (Floating.ofNat .binary64 x.documentDigits.coefficient)
        x.documentDigits.exponent = some z ∧ z.negative = false ∧ z.magnitude = x.magnitude := by
  have hread := congrArg Floating.magnitude
    (Floating.toFloating_documentDigits (x := x) (by decide) hfinite)
  refine ⟨_, scaled?_exact hdigits hexponent ?_, DecimalDigits.negative_toFloating _ _ _, hread⟩
  exact decide_eq_true (hread ▸ of_decide_eq_true hfinite)

/-- What is read for a wide float is in any case finite and close to it. -/
theorem scaled?_wide {x : Binary64} (hfinite : x.isFinite = true) :
    ∃ z, scaled? (Floating.ofNat .binary64 x.documentDigits.coefficient)
        x.documentDigits.exponent = some z ∧ Close x.magnitude z := by
  have hlt : x.magnitude < binary64.infinity := of_decide_eq_true hfinite
  rcases Nat.eq_zero_or_pos x.magnitude with hzero | hpos
  · have hdigits : x.documentDigits = ⟨0, -1⟩ := by
      unfold Floating.documentDigits
      rw [Floating.digits_zero .even hzero]
      decide
    obtain ⟨z, hscaled, hpositive, hmagnitude⟩ := scaled?_wide_exact hfinite
      (hdigits ▸ Nat.zero_le _) (hdigits ▸ by decide)
    refine ⟨z, hscaled, hpositive, decide_eq_true ?_, ?_, ?_⟩
    · omega
    · omega
    · omega
  · rcases Nat.lt_or_ge (x.magnitude + 4) binary64.infinity with hroom | hlarge
    · have hword : x.documentDigits.coefficient < Nat.pow 2 64 :=
        x.documentDigits_lt 16 rfl (by decide) (by decide)
      have hnearest := isNearestTo_of_toFloating hfinite
        (Floating.toFloating_documentDigits (by decide) hfinite)
      exact scaled?_close (Floating.documentDigits_pos hpos 16 rfl) hword hnearest hroom
        (exponent_ge x)
    · exact scaled?_top hfinite hlarge

end Json
end CheckedSelect
