import CheckedSelect.Proofs.Floating.Round
import Mathlib.Tactic.Ring

/-!
# CheckedSelect.Proofs.Floating.Closeness

How far rounding goes.

* `IsNearest.le_of_le`, `IsNearest.le_of_ge`, `nearest_le`: rounding keeps the order.
* `Within`: two numbers that differ by few parts of the precision; differences of quotients add up
  along a computation (`Within.trans`).
* `nearest_within`: one rounding makes a difference of one part.
* `IsNearest.le_add`: numbers nearest to quotients that differ by few parts have few others between
  them.
-/

namespace CheckedSelect
namespace FloatFormat

variable {f : FloatFormat} {num den : Nat}

/-! ## Order -/

theorem IsNearest.le_of_le (hden : 0 < den) {m bound : Nat} (h : f.IsNearest num den m)
    (hle : num ≤ f.units bound * den) : m ≤ bound := by
  by_contra hlt
  have hfrom := h.low_le
  have hprevious : f.units bound ≤ f.units (m - 1) := f.units_strictMono.monotone (by omega)
  have hself : f.units bound < f.units m := f.units_strictMono (by omega)
  have hsum : 2 * f.units bound * den < (f.units (m - 1) + f.units m) * den :=
    Nat.mul_lt_mul_of_pos_right (by omega) hden
  rw [Nat.mul_assoc] at hsum
  omega

theorem IsNearest.le_of_ge (hden : 0 < den) {m bound : Nat} (h : f.IsNearest num den m)
    (hle : f.units bound * den ≤ num) : bound ≤ m := by
  by_contra hlt
  have hto := h.le_high
  have hnext : f.units (m + 1) ≤ f.units bound := f.units_strictMono.monotone (by omega)
  have hself : f.units m < f.units bound := f.units_strictMono (by omega)
  have hsum : (f.units m + f.units (m + 1)) * den < 2 * f.units bound * den :=
    Nat.mul_lt_mul_of_pos_right (by omega) hden
  rw [Nat.mul_assoc 2] at hsum
  omega

theorem nearest_le (hbits : 0 < f.fractionBits) (hden : 0 < den) {bound : Nat}
    (h : num ≤ f.units bound * den) : f.nearest num den ≤ bound :=
  Nat.le_trans (Nat.min_le_right _ _) ((isNearest_rounded hbits hden).le_of_le hden h)

/-! ## Parts of the precision -/

/-- Neither number is smaller than the other by more than `n` parts, of which a number has as many as
there are steps of one size and the next smaller one together. -/
structure Within (f : FloatFormat) (n a b : Nat) : Prop where
  left : (2 * f.binade - n) * a ≤ 2 * f.binade * b
  right : (2 * f.binade - n) * b ≤ 2 * f.binade * a

theorem parts_mul_le (parts m n : Nat) : parts * (parts - (m + n)) ≤ (parts - m) * (parts - n) := by
  rcases Nat.le_total parts (m + n) with hnone | hsome
  · rw [Nat.sub_eq_zero_of_le hnone]
    exact Nat.zero_le _
  · obtain ⟨rest, rfl⟩ := Nat.exists_eq_add_of_le hsome
    have hm : m + n + rest - m = n + rest := by omega
    have hn : m + n + rest - n = m + rest := by omega
    rw [Nat.add_sub_cancel_left, hm, hn]
    calc (m + n + rest) * rest ≤ (m + n + rest) * rest + n * m := Nat.le_add_right _ _
      _ = (n + rest) * (m + rest) := by ring

namespace Within

variable {m n a b c : Nat}

theorem refl (f : FloatFormat) (n a : Nat) : f.Within n a a :=
  ⟨Nat.mul_le_mul_right a (Nat.sub_le _ n), Nat.mul_le_mul_right a (Nat.sub_le _ n)⟩

theorem symm (h : f.Within n a b) : f.Within n b a := ⟨h.right, h.left⟩

theorem mono (h : f.Within m a b) (hle : m ≤ n) : f.Within n a b where
  left := Nat.le_trans (Nat.mul_le_mul_right a (Nat.sub_le_sub_left hle _)) h.left
  right := Nat.le_trans (Nat.mul_le_mul_right b (Nat.sub_le_sub_left hle _)) h.right

/-- One half of adding differences up. -/
theorem trans_left (hab : f.Within m a b) (hbc : f.Within n b c) :
    (2 * f.binade - (m + n)) * a ≤ 2 * f.binade * c := by
  have hpos : 0 < 2 * f.binade := Nat.mul_pos (by decide) f.binade_pos
  have hfirst := hab.left
  have hsecond := hbc.left
  have hparts := parts_mul_le (2 * f.binade) m n
  generalize 2 * f.binade = parts at hpos hfirst hsecond hparts ⊢
  refine Nat.le_of_mul_le_mul_left ?_ hpos
  calc parts * ((parts - (m + n)) * a) = parts * (parts - (m + n)) * a := by rw [Nat.mul_assoc]
    _ ≤ (parts - m) * (parts - n) * a := Nat.mul_le_mul_right a hparts
    _ = (parts - n) * ((parts - m) * a) := by ring
    _ ≤ (parts - n) * (parts * b) := Nat.mul_le_mul_left _ hfirst
    _ = parts * ((parts - n) * b) := Nat.mul_left_comm _ _ _
    _ ≤ parts * (parts * c) := Nat.mul_le_mul_left _ hsecond

theorem trans (hab : f.Within m a b) (hbc : f.Within n b c) : f.Within (m + n) a c :=
  ⟨hab.trans_left hbc, Nat.add_comm m n ▸ hbc.symm.trans_left hab.symm⟩

/-- Numbers that differ by less than half their parts are at most twice as large as each other. -/
theorem le_double (h : f.Within n a b) (hn : n ≤ f.binade) : a ≤ 2 * b := by
  refine Nat.le_of_mul_le_mul_left ?_ f.binade_pos
  calc f.binade * a ≤ (2 * f.binade - n) * a := Nat.mul_le_mul_right a (by omega)
    _ ≤ 2 * f.binade * b := h.left
    _ = f.binade * (2 * b) := by ring

theorem mul_right (h : f.Within n a b) (factor : Nat) : f.Within n (a * factor) (b * factor) where
  left := by
    rw [← Nat.mul_assoc, ← Nat.mul_assoc]
    exact Nat.mul_le_mul_right factor h.left
  right := by
    rw [← Nat.mul_assoc, ← Nat.mul_assoc]
    exact Nat.mul_le_mul_right factor h.right

/-- The differences of two factors add up in their product. -/
theorem mul {d : Nat} (hab : f.Within m a b) (hcd : f.Within n c d) :
    f.Within (m + n) (a * c) (b * d) := by
  have hfirst := hab.mul_right c
  have hsecond := hcd.mul_right b
  rw [Nat.mul_comm c, Nat.mul_comm d] at hsecond
  exact hfirst.trans hsecond

theorem of_mul_right {factor : Nat} (hfactor : 0 < factor)
    (h : f.Within n (a * factor) (b * factor)) : f.Within n a b := by
  obtain ⟨hleft, hright⟩ := h
  rw [← Nat.mul_assoc, ← Nat.mul_assoc] at hleft hright
  exact ⟨Nat.le_of_mul_le_mul_right hleft hfactor, Nat.le_of_mul_le_mul_right hright hfactor⟩

end Within

/-! ## One rounding -/

/-- At most one part above, and at most one part of the smaller number below. -/
theorem Within.of_le {value : Nat} (hbelow : 2 * f.binade * value ≤ value + 2 * f.binade * num)
    (habove : 2 * f.binade * num ≤ (2 * f.binade + 1) * value) : f.Within 1 value num := by
  have hpos := f.binade_pos
  obtain ⟨less, hless⟩ : ∃ less, 2 * f.binade = less + 1 := ⟨2 * f.binade - 1, by omega⟩
  constructor
  · rw [Nat.sub_mul, Nat.one_mul]
    omega
  · rw [hless] at habove ⊢
    rw [Nat.add_sub_cancel]
    refine Nat.le_of_mul_le_mul_left ?_ (Nat.succ_pos less)
    calc (less + 1) * (less * num) = less * ((less + 1) * num) := Nat.mul_left_comm _ _ _
      _ ≤ less * ((less + 1 + 1) * value) := Nat.mul_le_mul_left less habove
      _ ≤ less * ((less + 1 + 1) * value) + value := Nat.le_add_right _ _
      _ = (less + 1) * ((less + 1) * value) := by ring

section

variable {m : Nat} (hnormal : f.binade ≤ m)
include hnormal

/-- The step above a number is two parts of it, but for the numbers that have few digits. -/
theorem units_succ_le : f.binade * f.units (m + 1) ≤ (f.binade + 1) * f.units m := by
  obtain ⟨shift, steps, hparts, hlt⟩ := f.exists_parts m
  have hsteps : f.binade ≤ steps := by
    rcases hparts.normal with rfl | hge
    · have heq := hparts.eq
      omega
    · exact hge
  rw [hparts.units_eq, hparts.units_succ hlt, ← Nat.mul_assoc, ← Nat.mul_assoc]
  refine Nat.mul_le_mul_right _ ?_
  rw [Nat.mul_add, Nat.add_mul]
  omega

/-- So is the step below, which is no larger. -/
theorem units_le_pred : f.binade * f.units m ≤ f.units m + f.binade * f.units (m - 1) := by
  have hpos := f.binade_pos
  obtain ⟨previous, rfl⟩ : ∃ previous, m = previous + 1 := ⟨m - 1, by omega⟩
  have hgrow : 2 * f.units (previous + 1) ≤ f.units previous + f.units (previous + 1 + 1) :=
    (f.units_grow previous).1
  have hstep := units_succ_le hnormal
  have hscaled := Nat.mul_le_mul_left f.binade hgrow
  rw [Nat.add_sub_cancel]
  rw [Nat.mul_add, Nat.mul_left_comm] at hscaled
  rw [Nat.add_mul, Nat.one_mul] at hstep
  omega

theorem IsNearest.within (h : f.IsNearest num den m) : f.Within 1 (f.units m * den) num := by
  apply Within.of_le
  · have hstep := units_le_pred hnormal
    calc 2 * f.binade * (f.units m * den)
        = (f.binade * f.units m + f.binade * f.units m) * den := by ring
      _ ≤ (f.units m + f.binade * f.units (m - 1) + f.binade * f.units m) * den :=
        Nat.mul_le_mul_right den (Nat.add_le_add_right hstep _)
      _ = f.units m * den + f.binade * ((f.units (m - 1) + f.units m) * den) := by ring
      _ ≤ f.units m * den + f.binade * (2 * num) :=
        Nat.add_le_add_left (Nat.mul_le_mul_left _ h.low_le) _
      _ = f.units m * den + 2 * f.binade * num := by ring
  · have hstep := units_succ_le hnormal
    calc 2 * f.binade * num = f.binade * (2 * num) := by ring
      _ ≤ f.binade * ((f.units m + f.units (m + 1)) * den) := Nat.mul_le_mul_left _ h.le_high
      _ = (f.binade * f.units m + f.binade * f.units (m + 1)) * den := by ring
      _ ≤ (f.binade * f.units m + (f.binade + 1) * f.units m) * den :=
        Nat.mul_le_mul_right den (Nat.add_le_add_left hstep _)
      _ = (2 * f.binade + 1) * (f.units m * den) := by ring

end

theorem nearest_within (hbits : 0 < f.fractionBits) (hden : 0 < den)
    (hnormal : f.binade * den ≤ num) (hfinite : f.nearest num den < f.infinity) :
    f.Within 1 (f.units (f.nearest num den) * den) num := by
  have hnearest : f.IsNearest num den (f.nearest num den) :=
    (nearest_eq_iff hbits hden hfinite).1 rfl
  have hbinade : f.units f.binade = f.binade := by
    have hparts : f.Parts f.binade 0 f.binade := ⟨by simp, by omega, .inl rfl⟩
    rw [hparts.units_eq]
    exact Nat.mul_one _
  exact hnearest.within (hnearest.le_of_ge hden (hbinade.symm ▸ hnormal))

/-! ## Neighbours -/

theorem units_add_le {m step : Nat} (h : f.units m + step ≤ f.units (m + 1)) (n : Nat) :
    f.units m + n * step ≤ f.units (m + n) := by
  induction n generalizing m with
  | zero => simp
  | succ n ih =>
    have hgrow : 2 * f.units (m + 1) ≤ f.units m + f.units (m + 1 + 1) := (f.units_grow m).1
    have hnext : f.units (m + 1) + step ≤ f.units (m + 1 + 1) := by omega
    have hback := ih hnext
    rw [Nat.add_right_comm, Nat.add_assoc m] at hback
    rw [Nat.succ_mul]
    omega

/-- A number has at most as many steps as there are parts. -/
theorem exists_step (f : FloatFormat) (magnitude : Nat) :
    ∃ step, 0 < step ∧ f.units (magnitude + 1) = f.units magnitude + step ∧
      f.units magnitude + step ≤ 2 * f.binade * step := by
  obtain ⟨shift, steps, hparts, hlt⟩ := f.exists_parts magnitude
  have hnext := hparts.units_succ hlt
  rw [Nat.succ_mul, ← hparts.units_eq] at hnext
  refine ⟨Nat.pow 2 shift, Nat.two_pow_pos shift, hnext, ?_⟩
  rw [← hnext, hparts.units_succ hlt]
  exact Nat.mul_le_mul_right _ hlt

/-- The half-way points below one number and above another differ by few parts only if few steps lie
between the two. -/
theorem le_add_of_within {a b n : Nat} (hn : n * (2 * n + 3) < 4 * f.binade)
    (h : (2 * f.binade - n) * (f.units (b - 1) + f.units b) ≤
      2 * f.binade * (f.units a + f.units (a + 1))) : b ≤ a + (n + 1) := by
  by_contra hfar
  obtain ⟨step, hstep, hnext, hunits⟩ := f.exists_step a
  have hbelow : f.units a + (n + 1) * step ≤ f.units (b - 1) :=
    Nat.le_trans (units_add_le (Nat.le_of_eq hnext.symm) (n + 1))
      (f.units_strictMono.monotone (by omega))
  have hhere : f.units a + (n + 2) * step ≤ f.units b :=
    Nat.le_trans (units_add_le (Nat.le_of_eq hnext.symm) (n + 2))
      (f.units_strictMono.monotone (by omega))
  obtain ⟨rest, hrest⟩ : ∃ rest, 2 * f.binade = n + rest := by
    apply Nat.exists_eq_add_of_le
    have hle : n * 2 ≤ n * (2 * n + 3) := Nat.mul_le_mul_left n (by omega)
    omega
  have hparts : n * (2 * n + 3) < 2 * (n + rest) := by omega
  rw [hrest, Nat.add_sub_cancel_left, hnext] at h
  rw [hrest] at hunits
  have hsum : rest * (2 * f.units a + (2 * n + 3) * step) ≤ (n + rest) * (2 * f.units a + step) :=
    calc rest * (2 * f.units a + (2 * n + 3) * step)
        = rest * ((f.units a + (n + 1) * step) + (f.units a + (n + 2) * step)) := by ring
      _ ≤ rest * (f.units (b - 1) + f.units b) :=
        Nat.mul_le_mul_left rest (Nat.add_le_add hbelow hhere)
      _ ≤ (n + rest) * (f.units a + (f.units a + step)) := h
      _ = (n + rest) * (2 * f.units a + step) := by ring
  have hsteps : rest * (2 * n + 2) * step ≤ n * (2 * (n + rest)) * step :=
    calc rest * (2 * n + 2) * step ≤ n * (2 * f.units a + step) := by
          have hleft : rest * (2 * f.units a + (2 * n + 3) * step) =
              rest * (2 * n + 2) * step + rest * (2 * f.units a + step) := by ring
          rw [hleft, Nat.add_mul n] at hsum
          omega
      _ ≤ n * (2 * ((n + rest) * step)) := Nat.mul_le_mul_left n (by omega)
      _ = n * (2 * (n + rest)) * step := by ring
  have hcount := Nat.le_of_mul_le_mul_right hsteps hstep
  have hleft : rest * (2 * n + 2) = 2 * (n * rest) + 2 * rest := by ring
  have hright : n * (2 * (n + rest)) = n * (2 * n) + 2 * (n * rest) := by ring
  rw [Nat.mul_add n] at hparts
  omega

/-- Quotients that differ by few parts are rounded to numbers with few others between them. -/
theorem IsNearest.le_add {num' den' a b n : Nat} (hden : 0 < den) (hden' : 0 < den')
    (ha : f.IsNearest num den a) (hb : f.IsNearest num' den' b)
    (h : f.Within n (num' * den) (num * den')) (hn : n * (2 * n + 3) < 4 * f.binade) :
    b ≤ a + (n + 1) := by
  refine le_add_of_within hn (Nat.le_of_mul_le_mul_right ?_ (Nat.mul_pos hden hden'))
  have hleft := h.left
  generalize 2 * f.binade - n = fewer at hleft ⊢
  calc fewer * (f.units (b - 1) + f.units b) * (den * den')
      = fewer * (((f.units (b - 1) + f.units b) * den') * den) := by ring
    _ ≤ fewer * ((2 * num') * den) :=
      Nat.mul_le_mul_left _ (Nat.mul_le_mul_right den hb.low_le)
    _ = 2 * (fewer * (num' * den)) := by ring
    _ ≤ 2 * (2 * f.binade * (num * den')) := Nat.mul_le_mul_left 2 hleft
    _ = 2 * f.binade * ((2 * num) * den') := by ring
    _ ≤ 2 * f.binade * (((f.units a + f.units (a + 1)) * den) * den') :=
      Nat.mul_le_mul_left _ (Nat.mul_le_mul_right den' ha.le_high)
    _ = 2 * f.binade * (f.units a + f.units (a + 1)) * (den * den') := by ring

end FloatFormat
end CheckedSelect
