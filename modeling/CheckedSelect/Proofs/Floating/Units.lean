import CheckedSelect.Floating.Format
import Mathlib.Order.Monotone.Basic

/-!
# CheckedSelect.Proofs.Floating.Units

Magnitudes as multiples of the least positive number.

* `Parts`: a magnitude as a number of steps of one size. Every magnitude has such parts
  (`exists_parts`), and `Parts.units_eq`, `Parts.units_succ` give its units and those of the next.
* `units_strictMono`: magnitudes are ordered as the numbers they stand for.
* `units_grow`: from one magnitude to the next the steps stay the same or double.
* `exists_units_eq`: a number with few enough binary digits is the units of some magnitude.
-/

namespace CheckedSelect
namespace FloatFormat

variable {f : FloatFormat}

/-- How many magnitudes have the same step. -/
def binade (f : FloatFormat) : Nat := Nat.pow 2 f.fractionBits

theorem binade_pos (f : FloatFormat) : 0 < f.binade := Nat.two_pow_pos _

theorem units_subnormal {fraction : Nat} (h : fraction < f.binade) : f.units fraction = fraction := by
  have hdiv : fraction / Nat.pow 2 f.fractionBits = 0 := Nat.div_eq_of_lt h
  have hmod : fraction % Nat.pow 2 f.fractionBits = fraction := Nat.mod_eq_of_lt h
  rw [units, hdiv, hmod]
  rfl

theorem units_normal {exponent fraction : Nat} (h : fraction < f.binade) :
    f.units (fraction + f.binade * (exponent + 1)) = (f.binade + fraction) * Nat.pow 2 exponent := by
  have hdiv : (fraction + f.binade * (exponent + 1)) / Nat.pow 2 f.fractionBits = exponent + 1 := by
    show (fraction + f.binade * (exponent + 1)) / f.binade = _
    rw [Nat.add_mul_div_left _ _ f.binade_pos, Nat.div_eq_of_lt h, Nat.zero_add]
  have hmod : (fraction + f.binade * (exponent + 1)) % Nat.pow 2 f.fractionBits = fraction := by
    show (fraction + f.binade * (exponent + 1)) % f.binade = _
    rw [Nat.add_mul_mod_self_left, Nat.mod_eq_of_lt h]
  rw [units, hdiv, hmod]
  exact if_neg (Nat.succ_ne_zero exponent)

/-- The magnitude stands for `steps` steps of size `2 ^ shift`. Only the smallest step is taken
fewer times than there are magnitudes with it. -/
structure Parts (f : FloatFormat) (magnitude shift steps : Nat) : Prop where
  eq : magnitude = shift * f.binade + steps
  steps_le : steps ≤ 2 * f.binade
  normal : shift = 0 ∨ f.binade ≤ steps

namespace Parts

variable {magnitude shift steps : Nat}

/-- After the last step of a size the next size begins, and both count the same. -/
theorem units_eq (h : f.Parts magnitude shift steps) :
    f.units magnitude = steps * Nat.pow 2 shift := by
  obtain ⟨rfl, hle, hnormal⟩ := h
  have hpos := f.binade_pos
  rcases Nat.lt_or_ge steps f.binade with hsubnormal | hge
  · have hshift : shift = 0 := hnormal.resolve_right (Nat.not_le.2 hsubnormal)
    subst hshift
    rw [Nat.zero_mul, Nat.zero_add, units_subnormal hsubnormal]
    exact (Nat.mul_one steps).symm
  rcases Nat.lt_or_ge steps (2 * f.binade) with hlt | hlast
  · have hsum : shift * f.binade + steps = (steps - f.binade) + f.binade * (shift + 1) := by
      rw [Nat.mul_add, Nat.mul_comm f.binade shift]
      omega
    rw [hsum, units_normal (by omega), Nat.add_sub_cancel' hge]
  · have heq : steps = 2 * f.binade := Nat.le_antisymm hle hlast
    have hsum : shift * f.binade + steps = 0 + f.binade * (shift + 1 + 1) := by
      rw [heq, Nat.mul_add, Nat.mul_add, Nat.mul_comm f.binade shift]
      omega
    have hpow : Nat.pow 2 (shift + 1) = 2 * Nat.pow 2 shift := Nat.pow_succ'
    rw [hsum, units_normal hpos, heq, hpow, Nat.add_zero, Nat.mul_left_comm, Nat.mul_assoc]

theorem succ (h : f.Parts magnitude shift steps) (hlt : steps < 2 * f.binade) :
    f.Parts (magnitude + 1) shift (steps + 1) where
  eq := by rw [h.eq, Nat.add_assoc]
  steps_le := hlt
  normal := h.normal.imp_right (Nat.le_succ_of_le)

theorem units_succ (h : f.Parts magnitude shift steps) (hlt : steps < 2 * f.binade) :
    f.units (magnitude + 1) = (steps + 1) * Nat.pow 2 shift :=
  (h.succ hlt).units_eq

end Parts

theorem exists_parts (f : FloatFormat) (magnitude : Nat) :
    ∃ shift steps, f.Parts magnitude shift steps ∧ steps < 2 * f.binade := by
  have hpos := f.binade_pos
  have hdiv := Nat.div_add_mod magnitude f.binade
  have hmod := Nat.mod_lt magnitude hpos
  cases hexponent : magnitude / f.binade with
  | zero =>
    rw [hexponent, Nat.mul_zero, Nat.zero_add] at hdiv
    exact ⟨0, magnitude, ⟨by omega, by omega, .inl rfl⟩, by omega⟩
  | succ shift =>
    rw [hexponent, Nat.mul_succ, Nat.mul_comm] at hdiv
    exact ⟨shift, f.binade + magnitude % f.binade, ⟨by omega, by omega, .inr (by omega)⟩, by omega⟩

theorem units_lt_succ (f : FloatFormat) (magnitude : Nat) :
    f.units magnitude < f.units (magnitude + 1) := by
  obtain ⟨shift, steps, hparts, hlt⟩ := f.exists_parts magnitude
  rw [hparts.units_eq, hparts.units_succ hlt]
  exact Nat.mul_lt_mul_of_pos_right (Nat.lt_succ_self steps) (Nat.two_pow_pos shift)

theorem units_strictMono (f : FloatFormat) : StrictMono f.units :=
  strictMono_nat_of_lt_succ f.units_lt_succ

/-- The step after a magnitude is no smaller than the one before it, and at most twice as large. -/
theorem units_grow (f : FloatFormat) (magnitude : Nat) :
    2 * f.units (magnitude + 1) ≤ f.units magnitude + f.units (magnitude + 2) ∧
      2 * f.units magnitude + f.units (magnitude + 2) ≤ 3 * f.units (magnitude + 1) := by
  have hpos := f.binade_pos
  obtain ⟨shift, steps, hparts, hlt⟩ := f.exists_parts magnitude
  have hhere := hparts.units_eq
  have hnext := hparts.succ hlt
  rw [hhere, hnext.units_eq]
  rcases Nat.lt_or_ge (steps + 1) (2 * f.binade) with hinside | hlast
  · rw [hnext.units_succ hinside]
    simp only [Nat.add_mul, Nat.one_mul]
    omega
  · -- The first step of the next size.
    have hbinade : steps + 1 = 2 * f.binade := by omega
    have hfirst : f.Parts (magnitude + 1) (shift + 1) f.binade := by
      refine ⟨?_, by omega, .inr (Nat.le_refl _)⟩
      rw [hparts.eq, Nat.add_mul, Nat.one_mul]
      omega
    have hpow : Nat.pow 2 (shift + 1) = 2 * Nat.pow 2 shift := Nat.pow_succ'
    have hdouble : (f.binade + 1) * Nat.pow 2 (shift + 1) = (steps + 3) * Nat.pow 2 shift := by
      rw [hpow, ← Nat.mul_assoc, Nat.add_mul, Nat.mul_comm f.binade 2, ← hbinade]
    rw [hfirst.units_succ (by omega), hdouble]
    simp only [Nat.add_mul, Nat.one_mul]
    omega

theorem units_zero (f : FloatFormat) : f.units 0 = 0 := by
  have hparts : f.Parts 0 0 0 := ⟨by simp, Nat.zero_le _, .inl rfl⟩
  rw [hparts.units_eq, Nat.zero_mul]

/-- Steps may be made smaller as long as there are not too many of them. -/
theorem exists_units_eq {steps shift : Nat} (h : steps ≤ 2 * f.binade) :
    ∃ magnitude, f.units magnitude = steps * Nat.pow 2 shift := by
  induction shift generalizing steps with
  | zero => exact ⟨_, Parts.units_eq ⟨rfl, h, .inl rfl⟩⟩
  | succ shift ih =>
    by_cases hnormal : f.binade ≤ steps
    · exact ⟨_, Parts.units_eq ⟨rfl, h, .inr hnormal⟩⟩
    · have hdouble : 2 * steps ≤ 2 * f.binade := by omega
      obtain ⟨magnitude, hunits⟩ := ih hdouble
      have hpow : Nat.pow 2 (shift + 1) = 2 * Nat.pow 2 shift := Nat.pow_succ'
      refine ⟨magnitude, ?_⟩
      rw [hunits, hpow, Nat.mul_left_comm, Nat.mul_assoc]

end FloatFormat
end CheckedSelect
