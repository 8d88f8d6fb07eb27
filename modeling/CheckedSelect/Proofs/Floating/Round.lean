import CheckedSelect.Floating.Round
import CheckedSelect.Proofs.Floating.Units

/-!
# CheckedSelect.Proofs.Floating.Round

What rounding gives, said without the way it is computed.

* `IsNearest`: the quotient lies between the half-way points to the two neighbours of a magnitude,
  which count when the magnitude is even. There is at most one such magnitude
  (`IsNearest.unique`).
* `isNearest_rounded`, `nearest_eq_iff`: rounding finds it, unless the quotient is too large.
* `nearest_units`: a number that the format has is not changed.
* `nearest_congr`: only the quotient counts, not how it is written.
-/

namespace CheckedSelect

/-! ## Whole numbers -/

/-- Down from at most a half, up from at least one, and from the half itself to the even side. -/
theorem roundHalfEven_cases (num den : Nat) :
    (roundHalfEven num den = num / den ∧ 2 * (num % den) ≤ den ∧
      (2 * (num % den) = den → num / den % 2 = 0)) ∨
    (roundHalfEven num den = num / den + 1 ∧ den ≤ 2 * (num % den) ∧
      (2 * (num % den) = den → num / den % 2 = 1)) := by
  unfold roundHalfEven
  by_cases h : (2 * (num % den) < den || (2 * (num % den) == den && num / den % 2 == 0)) = true
  · left
    simp only [Bool.or_eq_true, Bool.and_eq_true, decide_eq_true_eq, beq_iff_eq] at h
    refine ⟨if_pos (by simpa using h), by omega, ?_⟩
    intro htie
    omega
  · right
    simp only [Bool.or_eq_true, Bool.and_eq_true, decide_eq_true_eq, beq_iff_eq] at h
    refine ⟨if_neg (by simpa using h), by omega, ?_⟩
    intro htie
    omega

theorem roundHalfEven_scale {factor : Nat} (hfactor : 0 < factor) (num den : Nat) :
    roundHalfEven (num * factor) (den * factor) = roundHalfEven num den := by
  have hdiv : num * factor / (den * factor) = num / den := Nat.mul_div_mul_right _ _ hfactor
  have hmod : 2 * (num * factor % (den * factor)) = 2 * (num % den) * factor := by
    rw [Nat.mul_mod_mul_right, Nat.mul_assoc]
  have heq : (2 * (num % den) * factor == den * factor) = (2 * (num % den) == den) := by
    rw [Bool.eq_iff_iff, beq_iff_eq, beq_iff_eq, Nat.mul_left_inj (Nat.ne_of_gt hfactor)]
  simp only [roundHalfEven, hdiv, hmod, heq, Nat.mul_lt_mul_right hfactor]

namespace FloatFormat

variable {f : FloatFormat} {num den : Nat}

/-! ## The nearest magnitude -/

/-- `num / den` lies in the interval of the magnitude. Twice the half-way point to a neighbour is
the sum of the two. -/
def IsNearest (f : FloatFormat) (num den magnitude : Nat) : Prop :=
  let low := (f.units (magnitude - 1) + f.units magnitude) * den
  let high := (f.units magnitude + f.units (magnitude + 1)) * den
  if magnitude % 2 = 0 then low ≤ 2 * num ∧ 2 * num ≤ high else low < 2 * num ∧ 2 * num < high

theorem IsNearest.low_le {magnitude : Nat} (h : f.IsNearest num den magnitude) :
    (f.units (magnitude - 1) + f.units magnitude) * den ≤ 2 * num := by
  unfold IsNearest at h
  split at h
  · exact h.1
  · exact Nat.le_of_lt h.1

theorem IsNearest.le_high {magnitude : Nat} (h : f.IsNearest num den magnitude) :
    2 * num ≤ (f.units magnitude + f.units (magnitude + 1)) * den := by
  unfold IsNearest at h
  split at h
  · exact h.2
  · exact Nat.le_of_lt h.2

/-- Between magnitudes that are not neighbours there is more than one half-way point, and that
between neighbours belongs to the even one alone. -/
theorem IsNearest.not_lt {m n : Nat} (hden : 0 < den) (hm : f.IsNearest num den m)
    (hn : f.IsNearest num den n) : ¬ m < n := by
  intro hlt
  have hhigh := hm.le_high
  have hlow := hn.low_le
  rcases Nat.lt_or_ge (m + 1) n with hfar | hnear
  · have hfirst : f.units m < f.units (n - 1) := f.units_strictMono (by omega)
    have hsecond : f.units (m + 1) ≤ f.units n := f.units_strictMono.monotone hlt
    have hsum : (f.units m + f.units (m + 1)) * den < (f.units (n - 1) + f.units n) * den :=
      Nat.mul_lt_mul_of_pos_right (by omega) hden
    omega
  · have hnext : n = m + 1 := by omega
    subst hnext
    unfold IsNearest at hm hn
    rw [Nat.add_sub_cancel] at hn hlow
    split at hm
    · rw [if_neg (by omega)] at hn
      omega
    · omega

theorem IsNearest.unique {m n : Nat} (hden : 0 < den) (hm : f.IsNearest num den m)
    (hn : f.IsNearest num den n) : m = n :=
  Nat.le_antisymm (Nat.not_lt.1 (hn.not_lt hden hm)) (Nat.not_lt.1 (hm.not_lt hden hn))

/-- What a magnitude stands for is nearest to itself. -/
theorem isNearest_units (f : FloatFormat) (den magnitude : Nat) (hden : 0 < den) :
    f.IsNearest (f.units magnitude * den) den magnitude := by
  have hnext := Nat.mul_lt_mul_of_pos_right (f.units_lt_succ magnitude) hden
  unfold IsNearest
  rw [Nat.add_mul, Nat.add_mul]
  cases magnitude with
  | zero =>
    rw [if_pos rfl, units_zero, Nat.zero_mul]
    omega
  | succ m =>
    have hprevious := Nat.mul_lt_mul_of_pos_right (f.units_lt_succ m) hden
    rw [Nat.add_sub_cancel]
    split <;> omega

/-! ## Rounding -/

/-- The quotient in steps of the size that is used at it. -/
theorem parts_quotient (f : FloatFormat) (q : Nat) :
    let shift := Nat.log2 q - f.fractionBits
    q / Nat.pow 2 shift < 2 * f.binade ∧ (shift = 0 ∨ f.binade ≤ q / Nat.pow 2 shift) := by
  intro shift
  have hbinade : 2 * f.binade = Nat.pow 2 (f.fractionBits + 1) := Nat.pow_succ'.symm
  rcases Nat.eq_zero_or_pos q with rfl | hq
  · have hpos := f.binade_pos
    rw [Nat.zero_div]
    exact ⟨by omega, .inl (by simp [shift])⟩
  have hlow : Nat.pow 2 (Nat.log2 q) ≤ q := Nat.log2_self_le (Nat.pos_iff_ne_zero.1 hq)
  have hhigh : q < Nat.pow 2 (Nat.log2 q + 1) := Nat.lt_log2_self
  constructor
  · refine (Nat.div_lt_iff_lt_mul (Nat.two_pow_pos shift)).2 ?_
    rw [hbinade]
    calc q < Nat.pow 2 (Nat.log2 q + 1) := hhigh
      _ ≤ Nat.pow 2 (f.fractionBits + 1 + shift) :=
        Nat.pow_le_pow_right (by decide) (by omega)
      _ = Nat.pow 2 (f.fractionBits + 1) * Nat.pow 2 shift := Nat.pow_add 2 _ _
  · rcases Nat.eq_zero_or_pos shift with hzero | hpos
    · exact .inl hzero
    · right
      refine (Nat.le_div_iff_mul_le (Nat.two_pow_pos shift)).2 ?_
      calc f.binade * Nat.pow 2 shift = Nat.pow 2 (f.fractionBits + shift) :=
            (Nat.pow_add 2 _ _).symm
        _ = Nat.pow 2 (Nat.log2 q) := by rw [show f.fractionBits + shift = Nat.log2 q by omega]
        _ ≤ q := hlow

/-- The magnitude before it is cut off at infinity. -/
def rounded (f : FloatFormat) (num den : Nat) : Nat :=
  let shift := Nat.log2 (num / den) - f.fractionBits
  shift * f.binade + roundHalfEven num (den * Nat.pow 2 shift)

theorem nearest_eq_min (f : FloatFormat) (num den : Nat) :
    f.nearest num den = min f.infinity (f.rounded num den) := rfl

theorem binade_even (hbits : 0 < f.fractionBits) : f.binade % 2 = 0 := by
  have htwo : f.binade = 2 * Nat.pow 2 (f.fractionBits - 1) := by
    rw [binade, ← Nat.succ_pred_eq_of_pos hbits]
    exact Nat.pow_succ'
  rw [htwo, Nat.mul_mod_right]

namespace Parts

variable {magnitude shift steps : Nat}

/-- Every size starts with an even magnitude. -/
theorem mod_two (h : f.Parts magnitude shift steps) (hbits : 0 < f.fractionBits) :
    magnitude % 2 = steps % 2 := by
  have heven : shift * f.binade % 2 = 0 := by rw [Nat.mul_mod, binade_even hbits]; rfl
  rw [h.eq]
  omega

theorem units_mul (h : f.Parts magnitude shift steps) (den : Nat) :
    f.units magnitude * den = den * Nat.pow 2 shift * steps := by
  rw [h.units_eq, Nat.mul_comm, ← Nat.mul_assoc, Nat.mul_right_comm]

theorem units_succ_mul (h : f.Parts magnitude shift steps) (hlt : steps < 2 * f.binade)
    (den : Nat) : f.units (magnitude + 1) * den =
      den * Nat.pow 2 shift * steps + den * Nat.pow 2 shift := by
  rw [h.units_succ hlt, Nat.mul_comm, ← Nat.mul_assoc, Nat.mul_right_comm, Nat.mul_succ]

/-- What is left over after whole steps is at most half a step: the magnitude below is nearest. Its
own lower neighbour is further away. -/
theorem isNearest_below (h : f.Parts magnitude shift steps) (hbits : 0 < f.fractionBits)
    (hlt : steps < 2 * f.binade) (hden : 0 < den) {left : Nat}
    (hnum : den * Nat.pow 2 shift * steps + left = num) (hhalf : 2 * left ≤ den * Nat.pow 2 shift)
    (htie : 2 * left = den * Nat.pow 2 shift → steps % 2 = 0) :
    f.IsNearest num den magnitude := by
  have hhere := h.units_mul den
  have hnext := h.units_succ_mul hlt den
  have hparity := h.mod_two hbits
  have hstep : 0 < den * Nat.pow 2 shift := Nat.mul_pos hden (Nat.two_pow_pos shift)
  unfold IsNearest
  rw [Nat.add_mul, Nat.add_mul, hhere, hnext]
  cases magnitude with
  | zero =>
    rw [if_pos rfl, hhere]
    omega
  | succ m =>
    have hprevious := Nat.mul_lt_mul_of_pos_right (f.units_lt_succ m) hden
    rw [hhere] at hprevious
    rw [Nat.add_sub_cancel]
    split <;> omega

/-- At least half a step is left over: the magnitude above is nearest. Its own upper neighbour may
be a larger step away. -/
theorem isNearest_above (h : f.Parts magnitude shift steps) (hbits : 0 < f.fractionBits)
    (hlt : steps < 2 * f.binade) (hden : 0 < den) {left : Nat}
    (hnum : den * Nat.pow 2 shift * steps + left = num) (hleft : left < den * Nat.pow 2 shift)
    (hhalf : den * Nat.pow 2 shift ≤ 2 * left)
    (htie : 2 * left = den * Nat.pow 2 shift → steps % 2 = 1) :
    f.IsNearest num den (magnitude + 1) := by
  have hhere := h.units_mul den
  have hnext := h.units_succ_mul hlt den
  have hparity := h.mod_two hbits
  have hafter := Nat.mul_lt_mul_of_pos_right (f.units_lt_succ (magnitude + 1)) hden
  unfold IsNearest
  rw [hnext] at hafter
  rw [Nat.add_sub_cancel, Nat.add_mul, Nat.add_mul, hhere, hnext]
  split <;> omega

end Parts

theorem isNearest_rounded (hbits : 0 < f.fractionBits) (hden : 0 < den) :
    f.IsNearest num den (f.rounded num den) := by
  have hquotient := f.parts_quotient (num / den)
  unfold rounded
  generalize hshift : Nat.log2 (num / den) - f.fractionBits = shift at hquotient
  obtain ⟨hlt, hnormal⟩ := hquotient
  show f.IsNearest num den (shift * f.binade + roundHalfEven num (den * Nat.pow 2 shift))
  rw [Nat.div_div_eq_div_mul] at hlt hnormal
  have hparts : f.Parts (shift * f.binade + num / (den * Nat.pow 2 shift)) shift
      (num / (den * Nat.pow 2 shift)) := ⟨rfl, Nat.le_of_lt hlt, hnormal⟩
  have hdivmod := Nat.div_add_mod num (den * Nat.pow 2 shift)
  rcases roundHalfEven_cases num (den * Nat.pow 2 shift) with
    ⟨hround, hhalf, htie⟩ | ⟨hround, hhalf, htie⟩
  · rw [hround]
    exact hparts.isNearest_below hbits hlt hden hdivmod hhalf htie
  · have hleft := Nat.mod_lt num (Nat.mul_pos hden (Nat.two_pow_pos shift))
    rw [hround]
    exact hparts.isNearest_above hbits hlt hden hdivmod hleft hhalf htie

theorem nearest_eq_iff (hbits : 0 < f.fractionBits) (hden : 0 < den) {magnitude : Nat}
    (hfinite : magnitude < f.infinity) :
    f.nearest num den = magnitude ↔ f.IsNearest num den magnitude := by
  have hrounded : f.IsNearest num den (f.rounded num den) := isNearest_rounded hbits hden
  rw [nearest_eq_min]
  constructor
  · intro h
    have heq : f.rounded num den = magnitude := by omega
    rw [← heq]
    exact hrounded
  · intro h
    have heq := hrounded.unique hden h
    omega

/-- A number that the format has is its own rounding. -/
theorem nearest_units (hbits : 0 < f.fractionBits) (hden : 0 < den) {magnitude : Nat}
    (hfinite : magnitude < f.infinity) (h : num = f.units magnitude * den) :
    f.nearest num den = magnitude := by
  rw [h]
  exact (nearest_eq_iff hbits hden hfinite).2 (f.isNearest_units den magnitude hden)

theorem nearest_scale (f : FloatFormat) {factor : Nat} (hfactor : 0 < factor) (num den : Nat) :
    f.nearest (num * factor) (den * factor) = f.nearest num den := by
  unfold nearest
  simp only [Nat.mul_div_mul_right _ _ hfactor, Nat.mul_right_comm den factor,
    roundHalfEven_scale hfactor]

/-- Equal quotients are rounded alike. -/
theorem nearest_congr (f : FloatFormat) {num' den' : Nat} (hden : 0 < den) (hden' : 0 < den')
    (h : num * den' = num' * den) : f.nearest num den = f.nearest num' den' :=
  calc f.nearest num den = f.nearest (num * den') (den * den') := (f.nearest_scale hden' _ _).symm
    _ = f.nearest (num' * den) (den' * den) := by rw [h, Nat.mul_comm den den']
    _ = f.nearest num' den' := f.nearest_scale hden _ _

end FloatFormat
end CheckedSelect
