import CheckedSelect.Json.Number
import CheckedSelect.Proofs.Floating.Closeness
import CheckedSelect.Proofs.Floating.Shortest
import Mathlib.Tactic.GCongr

/-!
# CheckedSelect.Proofs.Json.Scaled

What the reader's arithmetic makes of the digits of a float.

* `ofNat_within`, `powerOfTen_within`: digits and powers of ten as floats, exact if they are small.
* `rescaled`: one multiplication or division by a power of ten. `scaled?_eq_rescaled`,
  `scaled?_far`: reading takes one of them, or two for very small numbers.
* `rescaled_spec`, `rescaled_within`: the quotient that is rounded, how far it is from the decimal, and
  how far the result is.
* `reread_within`, `reread_exact`: how far one step goes with few digits, and when it gives the
  nearest float.
-/

namespace CheckedSelect

namespace Floating

variable {f : FloatFormat}

theorem leastUnits_pos (f : FloatFormat) : 0 < Nat.pow 2 f.leastBits := Nat.two_pow_pos _

theorem magnitude_ofNat (f : FloatFormat) (n : Nat) :
    (ofNat f n).magnitude = f.nearest (n * Nat.pow 2 f.leastBits) 1 := rfl

theorem magnitude_mul (x y : Floating f) :
    (x.mul y).magnitude = f.nearest (x.units * y.units) (Nat.pow 2 f.leastBits) := rfl

theorem magnitude_div (x y : Floating f) :
    (x.div y).magnitude = f.nearest (x.units * Nat.pow 2 f.leastBits) y.units := rfl

theorem negative_ofNat (f : FloatFormat) (n : Nat) : (ofNat f n).negative = false := rfl

theorem negative_mul_ofNat {x : Floating f} (hx : x.negative = false) (n : Nat) :
    (x.mul (ofNat f n)).negative = false := by
  show (x.negative != false) = false
  rw [hx]
  rfl

theorem negative_div_ofNat {x : Floating f} (hx : x.negative = false) (n : Nat) :
    (x.div (ofNat f n)).negative = false := by
  show (x.negative != false) = false
  rw [hx]
  rfl

theorem negative_convert (g : FloatFormat) {x : Floating f} (hfinite : x.isFinite = true) :
    (x.convert g).negative = x.negative := by
  unfold convert
  rw [if_pos hfinite]
  rfl

theorem magnitude_convert (g : FloatFormat) {x : Floating f} (hfinite : x.isFinite = true) :
    (x.convert g).magnitude =
      g.nearest (x.units * Nat.pow 2 g.leastBits) (Nat.pow 2 f.leastBits) := by
  unfold convert
  rw [if_pos hfinite]
  rfl

theorem ext_iff_parts {x y : Floating f} :
    x = y ↔ x.negative = y.negative ∧ x.magnitude = y.magnitude := by
  obtain ⟨negative, magnitude, _⟩ := x
  obtain ⟨negative', magnitude', _⟩ := y
  rw [mk.injEq]

theorem convert_self (hbits : 0 < f.fractionBits) {x : Floating f} (hfinite : x.isFinite = true) :
    x.convert f = x :=
  ext_iff_parts.2 ⟨negative_convert f hfinite, (magnitude_convert f hfinite).trans
    (FloatFormat.nearest_units hbits (leastUnits_pos f) (of_decide_eq_true hfinite) rfl)⟩

end Floating

theorem DecimalDigits.negative_toFloating (f : FloatFormat) (negative : Bool) (d : DecimalDigits) :
    (d.toFloating f negative).negative = negative := rfl

theorem DecimalDigits.magnitude_toFloating (f : FloatFormat) (negative : Bool) (d : DecimalDigits) :
    (d.toFloating f negative).magnitude =
      f.nearest (d.coefficient * Nat.pow 10 d.exponent.toNat * Nat.pow 2 f.leastBits)
        (Nat.pow 10 (-d.exponent).toNat) := rfl

namespace Json

open FloatFormat

/-! ## Digits and powers -/

theorem ten_pow_add (m n : Nat) : Nat.pow 10 m * Nat.pow 10 n = Nat.pow 10 (m + n) :=
  (Nat.pow_add 10 m n).symm

/-- How many units the number one has. -/
@[irreducible] def one : Nat := Nat.pow 2 binary64.leastBits

theorem one_eq : one = Nat.pow 2 binary64.leastBits := by
  unfold one
  rfl

theorem one_pos : 0 < one := by
  unfold one
  exact Floating.leastUnits_pos _

theorem ten_pow_le {m n : Nat} (h : m ≤ n) : Nat.pow 10 m ≤ Nat.pow 10 n :=
  Nat.pow_le_pow_right (by decide) h

theorem two_pow_le {m n : Nat} (h : m ≤ n) : Nat.pow 2 m ≤ Nat.pow 2 n :=
  Nat.pow_le_pow_right Nat.two_pos h

theorem le_one {n : Nat} (h : n ≤ Nat.pow 2 255) : n ≤ one := by
  rw [one_eq]
  exact Nat.le_trans h (two_pow_le (by decide))

theorem infinity_pos : 0 < binary64.infinity := by decide

theorem greatestPower_le :
    Nat.pow 10 greatestPower * one ≤ binary64.units (binary64.infinity - 1) := by
  decide +kernel

/-- The greatest power of ten is a finite number, and so is all that is smaller. -/
theorem mul_one_le {n : Nat} (h : n ≤ Nat.pow 10 greatestPower) :
    n * one ≤ binary64.units (binary64.infinity - 1) :=
  Nat.le_trans (Nat.mul_le_mul_right one h) greatestPower_le

theorem le_greatestPower {n k : Nat} (h : n ≤ Nat.pow 10 k) (hk : k ≤ greatestPower) :
    n ≤ Nat.pow 10 greatestPower :=
  Nat.le_trans h (ten_pow_le hk)

theorem magnitude_lt_infinity {num den : Nat} (hden : 0 < den)
    (h : num ≤ binary64.units (binary64.infinity - 1) * den) :
    binary64.nearest num den < binary64.infinity := by
  have hle : binary64.nearest num den ≤ binary64.infinity - 1 := nearest_le (by decide) hden h
  have hpos := infinity_pos
  omega

theorem ofNat_finite {n : Nat} (h : n ≤ Nat.pow 10 greatestPower) :
    (Floating.ofNat .binary64 n).magnitude < binary64.infinity := by
  rw [Floating.magnitude_ofNat, ← one_eq]
  apply magnitude_lt_infinity Nat.one_pos
  rw [Nat.mul_one]
  exact mul_one_le h

/-- Up to 53 binary digits are kept. -/
theorem units_ofNat {n : Nat} (h : n ≤ Nat.pow 2 53) :
    (Floating.ofNat .binary64 n).units = n * one := by
  obtain ⟨magnitude, hunits⟩ : ∃ magnitude, binary64.units magnitude = n * one := by
    rw [one_eq]
    exact exists_units_eq (f := binary64) h
  have hfinite : magnitude < binary64.infinity := by
    have hpos := infinity_pos
    have hrange := mul_one_le (le_greatestPower (Nat.le_trans h (by decide)) (k := 16) (by decide))
    rw [← hunits, binary64.units_strictMono.le_iff_le] at hrange
    omega
  have hmagnitude : (Floating.ofNat .binary64 n).magnitude = magnitude := by
    rw [Floating.magnitude_ofNat, ← one_eq]
    exact nearest_units (by decide) Nat.one_pos hfinite (by rw [hunits, Nat.mul_one])
  rw [Floating.units, hmagnitude, hunits]

theorem ofNat_within {n : Nat} (hpos : 0 < n) (h : n ≤ Nat.pow 10 greatestPower) :
    binary64.Within 1 (Floating.ofNat .binary64 n).units (n * one) := by
  have hnormal : binary64.binade * 1 ≤ n * one :=
    Nat.le_trans (le_one (by decide)) (Nat.le_mul_of_pos_left one hpos)
  have hfinite := ofNat_finite h
  rw [Floating.magnitude_ofNat, ← one_eq] at hfinite
  have hwithin := nearest_within (by decide) Nat.one_pos hnormal hfinite
  rw [Nat.mul_one] at hwithin
  rw [Floating.units, Floating.magnitude_ofNat, ← one_eq]
  exact hwithin

/-- The powers that a float holds exactly. -/
def exactPower : Nat := 22

/-- By how many parts a power of ten is off. -/
def powerError (k : Nat) : Nat := if k ≤ exactPower then 0 else 1

theorem units_powerOfTen {k : Nat} (h : k ≤ exactPower) :
    (powerOfTen k).units = Nat.pow 10 k * one := by
  have htable : ∀ k ≤ exactPower, (powerOfTen k).units = Nat.pow 10 k * one := by decide +kernel
  exact htable k h

theorem powerOfTen_within {k : Nat} (h : k ≤ greatestPower) :
    binary64.Within (powerError k) (powerOfTen k).units (Nat.pow 10 k * one) := by
  unfold powerError
  split
  · next hexact =>
    rw [units_powerOfTen hexact]
    exact .refl _ _ _
  · exact ofNat_within (DecimalDigits.ten_pow_pos k) (ten_pow_le h)

theorem powerOfTen_pos {k : Nat} (h : k ≤ greatestPower) : 0 < (powerOfTen k).units := by
  have hle := (powerOfTen_within h).right
  apply Nat.pos_of_ne_zero
  intro hzero
  have hten : 0 < Nat.pow 10 k * one := Nat.mul_pos (DecimalDigits.ten_pow_pos k) one_pos
  have hparts : 0 < 2 * binary64.binade - powerError k := by
    have hbinade : 1 < 2 * binary64.binade := by decide
    have herror : powerError k ≤ 1 := by
      unfold powerError
      split <;> omega
    omega
  have hprod := Nat.mul_pos hparts hten
  rw [hzero, Nat.mul_zero] at hle
  omega

/-! ## One step -/

/-- A float times a power of ten, or divided by one. -/
def rescaled (x : Binary64) (exponent : Int) : Binary64 :=
  if exponent < 0 then x.div (powerOfTen exponent.natAbs) else x.mul (powerOfTen exponent.natAbs)

theorem scaled?_eq_rescaled {x : Binary64} {exponent : Int} (h : exponent.natAbs ≤ greatestPower)
    (hfinite : (rescaled x exponent).isFinite = true) :
    scaled? x exponent = some (rescaled x exponent) := by
  rw [scaled?, if_pos h]
  unfold rescaled at hfinite ⊢
  split
  · rfl
  · next hpos =>
    rw [if_neg hpos] at hfinite
    exact if_pos hfinite

/-- Further down, the greatest power is taken first. -/
theorem scaled?_far {x : Binary64} {exponent : Int} (h : exponent < -greatestPower)
    (hzero : x.isZero = false) :
    scaled? x exponent =
      scaled? (x.div (powerOfTen greatestPower)) (exponent + greatestPower) := by
  have hfar : ¬ exponent.natAbs ≤ greatestPower := by omega
  have hneg : ¬ 0 ≤ exponent := by omega
  rw [scaled?, if_neg hfar, hzero, if_neg Bool.false_ne_true, if_neg hneg]

theorem negative_rescaled {x : Binary64} (hx : x.negative = false) (exponent : Int) :
    (rescaled x exponent).negative = false := by
  unfold rescaled
  split
  · exact Floating.negative_div_ofNat hx _
  · exact Floating.negative_mul_ofNat hx _

/-- The quotient whose nearest float is taken. It is off by what the float was off, and by what the
power of ten is. -/
theorem rescaled_spec {x : Binary64} {exponent : Int} (h : exponent.natAbs ≤ greatestPower)
    {digits below off : Nat} (hwithin : binary64.Within off (x.units * below) (digits * one)) :
    ∃ num den, 0 < den ∧
      (rescaled x exponent).magnitude = binary64.nearest num den ∧
      binary64.Within (off + powerError exponent.natAbs)
        (num * (Nat.pow 10 (-exponent).toNat * below))
        (digits * Nat.pow 10 exponent.toNat * one * den) := by
  have hpower := powerOfTen_within h
  have hpos := powerOfTen_pos h
  unfold rescaled
  split
  · next hneg =>
    have htoNat : (-exponent).toNat = exponent.natAbs := by omega
    have hnone : exponent.toNat = 0 := by omega
    rw [htoNat, hnone, Floating.magnitude_div, ← one_eq]
    refine ⟨_, _, hpos, rfl, ?_⟩
    generalize (powerOfTen exponent.natAbs).units = power at hpower
    have hleft : x.units * one * (Nat.pow 10 exponent.natAbs * below) =
        x.units * below * (Nat.pow 10 exponent.natAbs * one) := by ring
    have hright : digits * Nat.pow 10 0 * one * power = digits * one * power := by
      show digits * 1 * one * power = _
      rw [Nat.mul_one]
    rw [hleft, hright]
    exact hwithin.mul hpower.symm
  · next hge =>
    have hnone : (-exponent).toNat = 0 := by omega
    have htoNat : exponent.toNat = exponent.natAbs := by omega
    rw [htoNat, hnone, Floating.magnitude_mul, ← one_eq]
    refine ⟨_, _, one_pos, rfl, ?_⟩
    generalize (powerOfTen exponent.natAbs).units = power at hpower
    have hleft : x.units * power * (Nat.pow 10 0 * below) = x.units * below * power := by
      show _ * (1 * below) = _
      ring
    have hright : digits * Nat.pow 10 exponent.natAbs * one * one =
        digits * one * (Nat.pow 10 exponent.natAbs * one) := by ring
    rw [hleft, hright]
    exact hwithin.mul hpower

theorem powerError_le (k : Nat) : powerError k ≤ 1 := by
  unfold powerError
  split <;> omega

/-- One step with its rounding, where the result is neither too large to be finite nor too small to
have all its digits. It is off by two parts more, one for the power of ten and one for the result. -/
theorem rescaled_within {x : Binary64} {exponent : Int} (h : exponent.natAbs ≤ greatestPower)
    {digits below off : Nat} (hbelow : 0 < below) (hoff : off + 1 ≤ binary64.binade)
    (hwithin : binary64.Within off (x.units * below) (digits * one))
    (hlarge : 2 * (digits * Nat.pow 10 exponent.toNat) ≤ Nat.pow 10 greatestPower)
    (hsmall : 2 * binary64.binade * (binary64.binade * (Nat.pow 10 (-exponent).toNat * below)) ≤
      (2 * binary64.binade - (off + 1)) * (digits * Nat.pow 10 exponent.toNat * one)) :
    (rescaled x exponent).isFinite = true ∧
      binary64.Within (off + 2)
        ((rescaled x exponent).units * (Nat.pow 10 (-exponent).toNat * below))
        (digits * Nat.pow 10 exponent.toNat * one) := by
  obtain ⟨num, den, hden, hmagnitude, hquotient⟩ := rescaled_spec h hwithin
  have herror := powerError_le exponent.natAbs
  replace hquotient := hquotient.mono (n := off + 1) (by omega)
  have hscale : 0 < Nat.pow 10 (-exponent).toNat * below :=
    Nat.mul_pos (DecimalDigits.ten_pow_pos _) hbelow
  generalize Nat.pow 10 (-exponent).toNat * below = scale at *
  generalize digits * Nat.pow 10 exponent.toNat = above at *
  have hfinite : binary64.nearest num den < binary64.infinity := by
    apply magnitude_lt_infinity hden
    calc num ≤ num * scale := Nat.le_mul_of_pos_right num hscale
      _ ≤ 2 * (above * one * den) := hquotient.le_double hoff
      _ = 2 * above * one * den := by ring
      _ ≤ binary64.units (binary64.infinity - 1) * den :=
        Nat.mul_le_mul_right den (mul_one_le hlarge)
  have hnormal : binary64.binade * den ≤ num := by
    have hparts : 0 < 2 * binary64.binade * scale :=
      Nat.mul_pos (Nat.mul_pos Nat.two_pos binary64.binade_pos) hscale
    have hright := hquotient.right
    generalize 2 * binary64.binade - (off + 1) = fewer at hsmall hright
    refine Nat.le_of_mul_le_mul_left ?_ hparts
    calc 2 * binary64.binade * scale * (binary64.binade * den)
        = 2 * binary64.binade * (binary64.binade * scale) * den := by ring
      _ ≤ fewer * (above * one) * den := Nat.mul_le_mul_right den hsmall
      _ = fewer * (above * one * den) := Nat.mul_assoc _ _ _
      _ ≤ 2 * binary64.binade * (num * scale) := hright
      _ = 2 * binary64.binade * scale * num := by ring
  have hnearest : binary64.Within 1 ((rescaled x exponent).units * den) num := by
    rw [Floating.units, hmagnitude]
    exact nearest_within (by decide) hden hnormal hfinite
  constructor
  · rw [Floating.isFinite, hmagnitude]
    exact decide_eq_true hfinite
  · have hchain := (hnearest.mul_right scale).trans hquotient
    rw [Nat.mul_right_comm, Nat.add_comm 1, Nat.add_assoc] at hchain
    exact hchain.of_mul_right hden

/-- Digits as a float, and then with their power of ten. -/
def reread (d : DecimalDigits) : Binary64 :=
  rescaled (Floating.ofNat .binary64 d.coefficient) d.exponent

theorem negative_reread (d : DecimalDigits) : (reread d).negative = false :=
  negative_rescaled (Floating.negative_ofNat _ _) _

/-- Numbers in the middle of the range are off by two parts at most. -/
theorem reread_within {d : DecimalDigits} (hpos : 0 < d.coefficient)
    (hdigits : d.coefficient ≤ Nat.pow 2 53) (hexponent : d.exponent.natAbs ≤ 60) :
    (reread d).isFinite = true ∧
    binary64.Within 2 ((reread d).units * Nat.pow 10 (-d.exponent).toNat)
      (d.coefficient * Nat.pow 10 d.exponent.toNat * one) := by
  have hunits : binary64.Within 0 ((Floating.ofNat .binary64 d.coefficient).units * 1)
      (d.coefficient * one) := by
    rw [Nat.mul_one, units_ofNat hdigits]
    exact .refl _ _ _
  have hbelow : Nat.pow 10 (-d.exponent).toNat ≤ Nat.pow 10 60 := ten_pow_le (by omega)
  have habove : Nat.pow 10 d.exponent.toNat ≤ Nat.pow 10 60 := ten_pow_le (by omega)
  have hlarge : 2 * (d.coefficient * Nat.pow 10 d.exponent.toNat) ≤ Nat.pow 10 greatestPower := by
    refine le_greatestPower (k := 77) ?_ (by decide)
    calc 2 * (d.coefficient * Nat.pow 10 d.exponent.toNat)
        ≤ 2 * (Nat.pow 2 53 * Nat.pow 10 60) :=
          Nat.mul_le_mul_left 2 (Nat.mul_le_mul hdigits habove)
      _ ≤ Nat.pow 10 77 := by decide
  have hone : one ≤ d.coefficient * Nat.pow 10 d.exponent.toNat * one :=
    Nat.le_mul_of_pos_left one (Nat.mul_pos hpos (DecimalDigits.ten_pow_pos _))
  have hsmall : 2 * binary64.binade *
      (binary64.binade * (Nat.pow 10 (-d.exponent).toNat * 1)) ≤
        (2 * binary64.binade - (0 + 1)) * (d.coefficient * Nat.pow 10 d.exponent.toNat * one) := by
    have hrange : binary64.binade * Nat.pow 10 60 * 2 ≤ one := le_one (by decide)
    have hparts : 2 * binary64.binade ≤ 2 * (2 * binary64.binade - (0 + 1)) := by decide
    rw [Nat.mul_one]
    generalize 2 * binary64.binade - (0 + 1) = fewer at hparts ⊢
    calc 2 * binary64.binade * (binary64.binade * Nat.pow 10 (-d.exponent).toNat)
        ≤ 2 * fewer * (binary64.binade * Nat.pow 10 60) :=
          Nat.mul_le_mul hparts (Nat.mul_le_mul_left _ hbelow)
      _ = fewer * (binary64.binade * Nat.pow 10 60 * 2) := by ring
      _ ≤ fewer * (d.coefficient * Nat.pow 10 d.exponent.toNat * one) :=
        Nat.mul_le_mul_left fewer (Nat.le_trans hrange hone)
  have hstep := rescaled_within (Nat.le_trans hexponent (by decide)) Nat.one_pos (by decide) hunits
    hlarge hsmall
  rw [Nat.mul_one] at hstep
  exact hstep

/-! ## Exact steps -/

/-- Few digits and a small power of ten are floats, and so only the result is rounded. -/
theorem reread_exact {d : DecimalDigits} (hdigits : d.coefficient ≤ Nat.pow 2 53)
    (hexponent : d.exponent.natAbs ≤ exactPower) : reread d = d.toFloating .binary64 false := by
  have hunits := units_ofNat hdigits
  have hpower := units_powerOfTen hexponent
  have hten : 0 < Nat.pow 10 d.exponent.natAbs := DecimalDigits.ten_pow_pos _
  have hone := one_pos
  rw [Floating.ext_iff_parts, DecimalDigits.negative_toFloating, DecimalDigits.magnitude_toFloating,
    ← one_eq]
  refine ⟨negative_reread d, ?_⟩
  unfold reread rescaled
  split
  · next hneg =>
    have htoNat : (-d.exponent).toNat = d.exponent.natAbs := by omega
    have hnone : d.exponent.toNat = 0 := by omega
    rw [Floating.magnitude_div, ← one_eq, htoNat, hnone, hunits, hpower]
    refine nearest_congr _ (Nat.mul_pos hten hone) hten ?_
    show _ = d.coefficient * 1 * one * _
    ring
  · next hge =>
    have hnone : (-d.exponent).toNat = 0 := by omega
    have htoNat : d.exponent.toNat = d.exponent.natAbs := by omega
    rw [Floating.magnitude_mul, ← one_eq, htoNat, hnone, hunits, hpower]
    refine nearest_congr _ hone Nat.one_pos ?_
    show _ * 1 = _
    ring

end Json
end CheckedSelect
