import Mathlib.Tactic.Linarith

/-!
# CheckedSelect.Proofs.Floating.Residues

Which multiples of a number come near a given residue.

* `Meets`: a multiple lies in a window that is repeated with a period.
* `firstMeeting`: a bound below which no multiple does, found as by Euclid's algorithm.
  `firstMeeting_le`: nothing is missed.
* `meetings`: a check of all multiples that do, up to a limit, each found from the one before.
  `check_of_meetings`: nothing is left unchecked.
-/

namespace CheckedSelect
namespace Residues

/-- `a * x` lies in the window from `low` to `high`, some periods up. -/
def Meets (a period low high x : Nat) : Prop :=
  ∃ y, period * y + low ≤ a * x ∧ a * x ≤ period * y + high

/-! ## The first multiple -/

/-- If no multiple below the period lies in the window, then a multiple that does so `y` periods up
makes `y` periods one that lies in a window of the remainders. Of zero no multiple does. -/
def firstMeeting (limit : Nat) : Nat → Nat → Nat → Nat → Nat → Nat
  | 0, _, _, _, _ => 0
  | rounds + 1, a, period, low, high =>
    if a = 0 then limit
    else
      let x := (low + a - 1) / a
      if a * x ≤ high then x
      else
        let y := firstMeeting limit rounds (period % a) a (a * x - high) (a * x - low)
        (period * y + low + a - 1) / a

/-- The least number of steps of size `a` up to `n`. -/
theorem ceil_le {a n x : Nat} (h : n ≤ a * x) : (n + a - 1) / a ≤ x := by
  rcases Nat.eq_zero_or_pos a with rfl | ha
  · rw [Nat.div_zero]
    exact Nat.zero_le x
  · apply Nat.le_of_lt_succ
    rw [Nat.div_lt_iff_lt_mul ha, Nat.succ_mul, Nat.mul_comm x a]
    omega

theorem le_mul_ceil {a : Nat} (ha : 0 < a) (n : Nat) :
    n ≤ a * ((n + a - 1) / a) ∧ a * ((n + a - 1) / a) < n + a := by
  have hdivmod := Nat.div_add_mod (n + a - 1) a
  have hmod := Nat.mod_lt (n + a - 1) ha
  omega

theorem firstMeeting_le (limit rounds : Nat) {a period low high x y : Nat} (hlow : 0 < low)
    (hfrom : period * y + low ≤ a * x) (hto : a * x ≤ period * y + high) :
    firstMeeting limit rounds a period low high ≤ x := by
  induction rounds generalizing a period low high x y with
  | zero => exact Nat.zero_le x
  | succ rounds ih =>
    have hne : a ≠ 0 := by
      rintro rfl
      rw [Nat.zero_mul] at hfrom
      omega
    have ha : 0 < a := Nat.pos_of_ne_zero hne
    obtain ⟨hceil, hlast⟩ := le_mul_ceil ha low
    generalize hsteps : (low + a - 1) / a = steps at hceil hlast
    rw [firstMeeting, if_neg hne, hsteps]
    dsimp only
    split
    · rw [← hsteps]
      exact ceil_le (Nat.le_trans (Nat.le_add_left low _) hfrom)
    · next hpast =>
      have hperiod : period * y = a * (period / a * y) + period % a * y := by
        rw [← Nat.mul_assoc, ← Nat.add_mul, Nat.div_add_mod]
      -- The multiples below the first one past the window make up whole steps of each period.
      obtain ⟨more, rfl⟩ : ∃ more, x = period / a * y + steps + more := by
        apply Nat.exists_eq_add_of_le
        by_contra hless
        have hle : a * (x + 1) ≤ a * (period / a * y + steps) := Nat.mul_le_mul_left a (by omega)
        rw [Nat.mul_add, Nat.mul_add, Nat.mul_one] at hle
        omega
      rw [Nat.mul_add, Nat.mul_add] at hfrom hto
      have hback : firstMeeting limit rounds (period % a) a (a * steps - high) (a * steps - low) ≤ y :=
        ih (y := more) (by omega) (by omega) (by omega)
      apply ceil_le
      have hmono := Nat.mul_le_mul_left period hback
      rw [Nat.mul_add, Nat.mul_add]
      omega

/-! ## All multiples -/

/-- Each multiple below the limit that lies in the window is checked, from `x` on. -/
def meetings (check : Nat → Bool) (a period low high limit : Nat) : Nat → Nat → Bool
  | 0, x => limit ≤ x
  | rounds + 1, x =>
    if limit ≤ x then true
    else
      let residue := a * x % period
      if low ≤ residue ∧ residue ≤ high then
        check x && meetings check a period low high limit rounds (x + 1)
      else
        let gap := if residue < low then low - residue else low + period - residue
        meetings check a period low high limit rounds
          (x + firstMeeting limit 64 a period gap (gap + (high - low)))

/-- From one multiple on, the window is as far away as its residue is. -/
theorem meets_from {a period low high x more : Nat} (hhigh : high < period) (hle : low ≤ high)
    (h : Meets a period low high (x + more))
    (hout : ¬ (low ≤ a * x % period ∧ a * x % period ≤ high)) {gap : Nat}
    (hgap : gap = if a * x % period < low then low - a * x % period
      else low + period - a * x % period) :
    0 < gap ∧ Meets a period gap (gap + (high - low)) more := by
  obtain ⟨y, hfrom, hto⟩ := h
  have hdivmod := Nat.div_add_mod (a * x) period
  have hmod := Nat.mod_lt (a * x) (by omega : 0 < period)
  generalize a * x % period = residue at hout hgap hdivmod hmod
  generalize a * x / period = turns at hdivmod
  rw [Nat.mul_add] at hfrom hto
  split at hgap
  · next hbelow =>
    obtain ⟨up, rfl⟩ : ∃ up, y = turns + up := by
      apply Nat.exists_eq_add_of_le
      by_contra hless
      have hle := Nat.mul_le_mul_left period (by omega : y + 1 ≤ turns)
      rw [Nat.mul_add, Nat.mul_one] at hle
      omega
    rw [Nat.mul_add] at hfrom hto
    refine ⟨by omega, up, ?_, ?_⟩
    · omega
    · omega
  · next habove =>
    obtain ⟨up, rfl⟩ : ∃ up, y = turns + 1 + up := by
      apply Nat.exists_eq_add_of_le
      by_contra hless
      have hle := Nat.mul_le_mul_left period (by omega : y ≤ turns)
      omega
    rw [Nat.mul_add, Nat.mul_add, Nat.mul_one] at hfrom hto
    refine ⟨by omega, up, ?_, ?_⟩
    · omega
    · omega

theorem check_of_meetings {check : Nat → Bool} {a period low high limit : Nat}
    (hhigh : high < period) (hle : low ≤ high) {rounds start : Nat}
    (h : meetings check a period low high limit rounds start = true) {x : Nat}
    (hstart : start ≤ x) (hx : x < limit) (hmeets : Meets a period low high x) :
    check x = true := by
  induction rounds generalizing start with
  | zero =>
    have hdone : limit ≤ start := of_decide_eq_true h
    omega
  | succ rounds ih =>
    rw [meetings] at h
    split at h
    · omega
    · dsimp only at h
      split at h
      · rw [Bool.and_eq_true] at h
        rcases Nat.eq_or_lt_of_le hstart with rfl | hlater
        · exact h.1
        · exact ih h.2 hlater
      · next hout =>
        obtain ⟨more, rfl⟩ := Nat.exists_eq_add_of_le hstart
        obtain ⟨hgap, y, hfrom, hto⟩ := meets_from hhigh hle hmeets hout rfl
        refine ih h ?_
        exact Nat.add_le_add_left (firstMeeting_le limit 64 hgap hfrom hto) start

end Residues
end CheckedSelect
