import CheckedSelect.Proofs.Floating.Grid
import CheckedSelect.Proofs.Floating.Residues
import CheckedSelect.Proofs.Floating.Widening
import CheckedSelect.Proofs.Json.FloatText
import CheckedSelect.Proofs.Json.Scaled

/-!
# CheckedSelect.Proofs.Json.NearMisses

The digits of a narrow float, read as a wide one and then made narrow.

The wide float is off by two parts of its precision at most, and all half-way points between narrow
floats are wide ones. So the two roundings can only go wrong where digits come as near to a half-way
point as that. Where they meet one, they are read exactly (`units_reread_of_halfway`). The others are
the multiples of a power of ten that leave almost half a step when they are divided by a step, which
a search finds, one size of steps after the other.

* `settled`: a decimal that is read well, or is not the shortest of any number.
* `NearMiss.settled`: by the search, all decimals are settled that come near to a half-way point.
* `convert_reread`: so the shortest digits of a narrow float are read well.
* `scaled?_narrow`: the digits in its text are read as the shortest ones are.
-/

namespace CheckedSelect
namespace Json

open FloatFormat Residues

/-! ## The search -/

/-- Both roundings together give what one rounding gives, or these are not shortest digits. -/
def settled (d : DecimalDigits) : Bool :=
  ((reread d).convert .binary32).magnitude == (d.toFloating .binary32 false).magnitude ||
    (d.toFloating .binary32 false).digits .even != d

/-- The same for all decimals that have this point of a grid for their value. -/
def settledOn (grid point : Nat) : Bool :=
  (List.range 11).all fun zeros =>
    point % Nat.pow 10 zeros != 0 ||
      settled ⟨point / Nat.pow 10 zeros, (grid + zeros : Nat) - binary32.gridBits⟩

/-- The finest grid for digits of numbers with steps of size `2 ^ shift`, by the binary logarithm of
ten. -/
def gridFor (shift : Nat) : Nat := (30103 * shift + 10502160) / 100000

/-- How near to a half-way point the digits must come: one part in `2 ^ 27` of half a step. -/
def slack (shift : Nat) : Nat := binary32.halfStep shift / 134217728

/-- Above all numbers with steps of size `2 ^ shift`, on their grid. -/
def pointLimit (shift : Nat) : Nat :=
  Nat.pow 2 25 * binary32.halfStep shift / Nat.pow 10 (gridFor shift) + 1

/-- All points of the grid that leave between `low` and `high` when they are divided by a step. -/
def pointsSettled (shift low high : Nat) : Bool :=
  meetings (settledOn (gridFor shift)) (Nat.pow 10 (gridFor shift)) (2 * binary32.halfStep shift)
    low high (pointLimit shift) 20 0

theorem gridFor_spec : ∀ shift < 254,
    2 * Nat.pow 10 (gridFor shift) < 3 * binary32.halfStep shift ∧ 0 < slack shift ∧
      pointLimit shift ≤ Nat.pow 10 11 := by
  decide +kernel

/-- The search, below and above the half-way points. -/
theorem pointsSettled_near : ∀ shift < 254,
    pointsSettled shift (binary32.halfStep shift - slack shift) (binary32.halfStep shift - 1) =
      true ∧
    pointsSettled shift (binary32.halfStep shift + 1) (binary32.halfStep shift + slack shift) =
      true := by
  decide +kernel

theorem settled_of_settledOn {grid coefficient zeros : Nat} (hzeros : zeros ≤ 10)
    (h : settledOn grid (coefficient * Nat.pow 10 zeros) = true) :
    settled ⟨coefficient, (grid + zeros : Nat) - binary32.gridBits⟩ = true := by
  have hpow : 0 < Nat.pow 10 zeros := DecimalDigits.ten_pow_pos zeros
  have hzero := List.all_eq_true.1 h zeros (List.mem_range.2 (by omega))
  rw [Nat.mul_mod_left, Nat.mul_div_cancel _ hpow, bne_self_eq_false, Bool.false_or] at hzero
  exact hzero

/-- A decimal that comes near to a half-way point, but not on it. -/
structure NearMiss (shift steps coefficient grid : Nat) : Prop where
  shift_lt : shift < 254
  steps_lt : 2 * steps + 1 < 33554432
  coefficient_pos : 0 < coefficient
  grid_ge : gridFor shift ≤ grid
  ne : Interval.point (coefficient, grid) ≠ (2 * steps + 1) * binary32.halfStep shift
  below : 134217728 * ((2 * steps + 1) * binary32.halfStep shift) ≤
    134217728 * Interval.point (coefficient, grid) + binary32.halfStep shift
  above : 134217728 * Interval.point (coefficient, grid) ≤
    134217728 * ((2 * steps + 1) * binary32.halfStep shift) + binary32.halfStep shift

namespace NearMiss

variable {shift steps coefficient zeros : Nat}

theorem point_eq (shift coefficient zeros : Nat) :
    Interval.point (coefficient, gridFor shift + zeros) =
      Nat.pow 10 (gridFor shift) * (coefficient * Nat.pow 10 zeros) := by
  show coefficient * Nat.pow 10 (gridFor shift + zeros) = _
  rw [← ten_pow_add, Nat.mul_left_comm]

theorem point_le (h : NearMiss shift steps coefficient (gridFor shift + zeros)) :
    Interval.point (coefficient, gridFor shift + zeros) ≤
      Nat.pow 2 25 * binary32.halfStep shift := by
  have hmore : 2 * steps + 1 + 1 ≤ Nat.pow 2 25 := h.steps_lt
  have hbound := Nat.mul_le_mul_right (binary32.halfStep shift) hmore
  rw [Nat.add_mul, Nat.one_mul] at hbound
  have habove := h.above
  generalize Nat.pow 2 25 * binary32.halfStep shift = last at hbound ⊢
  omega

theorem lt_pointLimit (h : NearMiss shift steps coefficient (gridFor shift + zeros)) :
    coefficient * Nat.pow 10 zeros < pointLimit shift := by
  have hstep : 0 < Nat.pow 10 (gridFor shift) := DecimalDigits.ten_pow_pos _
  have hle := h.point_le
  rw [point_eq] at hle
  apply Nat.lt_succ_of_le
  rw [Nat.le_div_iff_mul_le hstep, Nat.mul_comm]
  exact hle

theorem zeros_le (h : NearMiss shift steps coefficient (gridFor shift + zeros)) : zeros ≤ 10 := by
  obtain ⟨-, -, hlimit⟩ := gridFor_spec shift h.shift_lt
  have hten : Nat.pow 10 zeros < Nat.pow 10 11 :=
    calc Nat.pow 10 zeros ≤ coefficient * Nat.pow 10 zeros :=
          Nat.le_mul_of_pos_left _ h.coefficient_pos
      _ < Nat.pow 10 11 := Nat.lt_of_lt_of_le h.lt_pointLimit hlimit
  exact Nat.le_of_lt_succ ((Nat.pow_lt_pow_iff_right (by decide)).1 hten)

theorem slack_bounds (shift : Nat) :
    134217728 * slack shift ≤ binary32.halfStep shift ∧
      binary32.halfStep shift < 134217728 * slack shift + 134217728 := by
  have hdivmod := Nat.div_add_mod (binary32.halfStep shift) 134217728
  have hmod := Nat.mod_lt (binary32.halfStep shift) (by decide : 0 < 134217728)
  unfold slack
  omega

/-- The search has found it. -/
theorem settled {grid : Nat} (h : NearMiss shift steps coefficient grid) :
    Json.settled ⟨coefficient, grid - binary32.gridBits⟩ = true := by
  obtain ⟨zeros, rfl⟩ := Nat.exists_eq_add_of_le h.grid_ge
  obtain ⟨-, hslack, -⟩ := gridFor_spec shift h.shift_lt
  obtain ⟨hless, hmore⟩ := slack_bounds shift
  obtain ⟨hunder, hover⟩ := pointsSettled_near shift h.shift_lt
  have hrange := h.lt_pointLimit
  have hmiddle : (2 * steps + 1) * binary32.halfStep shift =
      2 * binary32.halfStep shift * steps + binary32.halfStep shift := by ring
  have hne := h.ne
  have hbelow := h.below
  have habove := h.above
  rw [point_eq, hmiddle] at hne hbelow habove
  apply settled_of_settledOn h.zeros_le
  rcases Nat.lt_or_gt_of_ne hne with hpoint | hpoint
  · refine check_of_meetings ?_ ?_ hunder (Nat.zero_le _) hrange ⟨steps, ?_, ?_⟩
    all_goals omega
  · refine check_of_meetings ?_ ?_ hover (Nat.zero_le _) hrange ⟨steps, ?_, ?_⟩
    all_goals omega

end NearMiss

/-! ## Half-way points -/

theorem five_pow_dvd {a b p q s t n : Nat} (h : a * (2 ^ p * 5 ^ q) = b * (2 ^ s * 5 ^ t))
    (hn : q + n ≤ t) : 5 ^ n ∣ a := by
  have hcoprime : Nat.Coprime (5 ^ n) (2 ^ p) := Nat.Coprime.pow n p (by decide)
  have hpos : 0 < 5 ^ q := Nat.pow_pos (by decide)
  refine hcoprime.dvd_of_dvd_mul_right (Nat.dvd_of_mul_dvd_mul_right hpos ?_)
  have hpow : 5 ^ n * 5 ^ q ∣ 5 ^ t := by
    rw [← Nat.pow_add, Nat.add_comm]
    exact Nat.pow_dvd_pow 5 hn
  rw [Nat.mul_assoc, h, ← Nat.mul_assoc]
  exact Nat.dvd_mul_left_of_dvd hpow _

/-- A point of a grid as a decimal has one of two powers of ten; the other one is a common factor. -/
theorem exists_common (grid bits : Nat) :
    ∃ common, 0 < common ∧
      Nat.pow 10 ((grid : Int) - bits).toNat * common = Nat.pow 10 grid ∧
      Nat.pow 10 (-((grid : Int) - bits)).toNat * common = Nat.pow 10 bits := by
  refine ⟨Nat.pow 10 (min grid bits), DecimalDigits.ten_pow_pos _, ?_, ?_⟩
  · rw [ten_pow_add]
    congr 1
    omega
  · rw [ten_pow_add]
    congr 1
    omega

section

variable {magnitude shift steps coefficient grid : Nat}

/-- A decimal on a half-way point has a small power of ten: a large one would have more factors of five
than half-way points or few digits have. -/
theorem exponent_of_halfway (hpos : 0 < coefficient) (hfew : coefficient ≤ Nat.pow 2 53)
    (hsteps : 2 * steps + 1 < 33554432)
    (h : Interval.point (coefficient, grid) = (2 * steps + 1) * binary32.halfStep shift) :
    ((grid : Int) - binary32.gridBits).natAbs ≤ exactPower := by
  have hbits : binary32.gridBits = 150 := by decide
  have hfive : (5 : Nat) ^ 23 = 11920928955078125 := by decide
  have htwo : Nat.pow 2 53 = 9007199254740992 := by decide
  have hten : Nat.pow 10 grid = 2 ^ grid * 5 ^ grid := Nat.mul_pow 2 5 grid
  have heq : coefficient * (2 ^ grid * 5 ^ grid) =
      (2 * steps + 1) * (2 ^ shift * 5 ^ binary32.gridBits) := hten ▸ h
  have hdown : ¬ grid + 23 ≤ binary32.gridBits := by
    intro hlow
    have hle := Nat.le_of_dvd hpos (five_pow_dvd heq hlow)
    omega
  have hup : ¬ binary32.gridBits + 23 ≤ grid := by
    intro hhigh
    have hle := Nat.le_of_dvd (Nat.succ_pos _) (five_pow_dvd heq.symm hhigh)
    omega
  unfold exactPower
  omega

/-- A half-way point is a wide float, so a decimal on it is read exactly. -/
theorem units_reread_of_halfway (hpos : 0 < coefficient) (hfew : coefficient ≤ Nat.pow 2 53)
    (hexponent : ((grid : Int) - binary32.gridBits).natAbs ≤ exactPower)
    (h : Interval.point (coefficient, grid) = (binary32.interval magnitude).high) :
    (reread ⟨coefficient, grid - binary32.gridBits⟩).units * Nat.pow 10 binary32.gridBits =
      Interval.point (coefficient, grid) * one := by
  obtain ⟨wide, hwide⟩ := binary32_widens.exists_halfway_point magnitude
  rw [← h, ← one_eq] at hwide
  obtain ⟨common, hcommon, habove, hbelow⟩ := exists_common grid binary32.gridBits
  have hden : 0 < Nat.pow 10 (-((grid : Int) - binary32.gridBits)).toNat :=
    DecimalDigits.ten_pow_pos _
  have hquotient : coefficient * Nat.pow 10 ((grid : Int) - binary32.gridBits).toNat * one =
      binary64.units wide * Nat.pow 10 (-((grid : Int) - binary32.gridBits)).toNat := by
    refine Nat.eq_of_mul_eq_mul_right hcommon ?_
    rw [Nat.mul_assoc (binary64.units wide), hbelow, hwide]
    calc coefficient * Nat.pow 10 ((grid : Int) - binary32.gridBits).toNat * one * common
        = coefficient * (Nat.pow 10 ((grid : Int) - binary32.gridBits).toNat * common) * one := by
          ring
      _ = Interval.point (coefficient, grid) * one := by
        rw [habove]
        rfl
  have hread := reread_within (d := ⟨coefficient, grid - binary32.gridBits⟩) hpos hfew
    (Nat.le_trans hexponent (by decide))
  have hexact := reread_exact (d := ⟨coefficient, grid - binary32.gridBits⟩) hfew hexponent
  have hmagnitude := congrArg Floating.magnitude hexact
  rw [DecimalDigits.magnitude_toFloating, ← one_eq, hquotient] at hmagnitude
  have hlt : (reread ⟨coefficient, grid - binary32.gridBits⟩).magnitude < binary64.infinity :=
    of_decide_eq_true hread.1
  have hnearest := (nearest_eq_iff (by decide) hden hlt).1 hmagnitude.symm
  rw [Floating.units, hnearest.unique hden (isNearest_units binary64 _ wide hden)]
  exact hwide

/-- What is read differs from the point by two parts at most. -/
theorem units_reread_within (hpos : 0 < coefficient) (hfew : coefficient ≤ Nat.pow 2 53)
    (hexponent : ((grid : Int) - binary32.gridBits).natAbs ≤ 60) :
    binary64.Within 2
      ((reread ⟨coefficient, grid - binary32.gridBits⟩).units * Nat.pow 10 binary32.gridBits)
      (Interval.point (coefficient, grid) * one) := by
  obtain ⟨common, -, habove, hbelow⟩ := exists_common grid binary32.gridBits
  have hwithin := ((reread_within (d := ⟨coefficient, grid - binary32.gridBits⟩) hpos hfew
    hexponent).2).mul_right common
  rw [Nat.mul_assoc (Floating.units _), hbelow] at hwithin
  have hpoint : coefficient * Nat.pow 10 ((grid : Int) - binary32.gridBits).toNat * one * common =
      Interval.point (coefficient, grid) * one := by
    rw [Nat.mul_right_comm, Nat.mul_assoc coefficient, habove]
    rfl
  rw [← hpoint]
  exact hwithin

/-- What is read is beyond a half-way point, or on it. -/
def Crosses (point middle value : Nat) : Prop :=
  (point ≤ middle ∧ middle * one ≤ value) ∨ (middle ≤ point ∧ value ≤ middle * one)

/-- Two parts of the wide format are less than a part in `2 ^ 27` of half a step of the narrow one. -/
theorem Crosses.near {point middle value half : Nat} (hbound : middle ≤ 33554431 * half)
    (hwithin : binary64.Within 2 value (point * one)) (h : Crosses point middle value) :
    134217728 * middle ≤ 134217728 * point + half ∧
      134217728 * point ≤ 134217728 * middle + half := by
  have hparts : 2 * binary64.binade = 9007199254740992 := by decide
  obtain ⟨hleft, hright⟩ := hwithin
  rw [hparts] at hleft hright
  rcases h with ⟨hside, hvalue⟩ | ⟨hside, hvalue⟩
  · have hscaled : 9007199254740990 * middle * one ≤ 9007199254740992 * point * one :=
      calc 9007199254740990 * middle * one ≤ 9007199254740990 * value := by
            rw [Nat.mul_assoc]
            exact Nat.mul_le_mul_left _ hvalue
        _ ≤ 9007199254740992 * point * one := by
            rw [Nat.mul_assoc]
            exact hleft
    have hnear := Nat.le_of_mul_le_mul_right hscaled one_pos
    omega
  · have hscaled : 9007199254740990 * point * one ≤ 9007199254740992 * middle * one :=
      calc 9007199254740990 * point * one ≤ 9007199254740992 * value := by
            rw [Nat.mul_assoc]
            exact hright
        _ ≤ 9007199254740992 * middle * one := by
            rw [Nat.mul_assoc]
            exact Nat.mul_le_mul_left _ hvalue
    have hnear := Nat.le_of_mul_le_mul_right hscaled one_pos
    omega

/-- The largest finite numbers have steps of size `2 ^ 253`. -/
theorem shift_lt (hparts : binary32.Parts magnitude shift steps)
    (hfinite : magnitude < binary32.infinity) : shift < 254 := by
  have hbinade : binary32.binade = 8388608 := by decide
  have hinfinity : binary32.infinity = 255 * 8388608 := by decide
  have heq := hparts.eq
  have hnormal := hparts.normal
  rw [hbinade] at heq hnormal
  omega

theorem nearMiss_of_crosses (hparts : binary32.Parts magnitude shift steps)
    (hlt : steps < 2 * binary32.binade) (hfinite : magnitude < binary32.infinity)
    (hpos : 0 < coefficient) (hgrid : gridFor shift ≤ grid) {value : Nat}
    (hwithin : binary64.Within 2 value (Interval.point (coefficient, grid) * one))
    (hcrosses : Crosses (Interval.point (coefficient, grid)) (binary32.interval magnitude).high value)
    (hne : Interval.point (coefficient, grid) ≠ (binary32.interval magnitude).high) :
    NearMiss shift steps coefficient grid := by
  have hbinade : binary32.binade = 8388608 := by decide
  have hhigh := interval_high_eq hparts hlt
  have hbound : (binary32.interval magnitude).high ≤ 33554431 * binary32.halfStep shift := by
    rw [hhigh]
    exact Nat.mul_le_mul_right _ (by omega)
  obtain ⟨hbelow, habove⟩ := hcrosses.near hbound hwithin
  rw [hhigh] at hbelow habove hne
  exact ⟨shift_lt hparts hfinite, by omega, hpos, hgrid, hne, hbelow, habove⟩

end

/-! ## Shortest digits -/

/-- A value strictly inside the interval of a number is rounded to it. -/
theorem nearest_of_between {magnitude value : Nat} (hfinite : magnitude < binary32.infinity)
    (hlow : (binary32.interval magnitude).low * one < value)
    (hhigh : value < (binary32.interval magnitude).high * one) :
    binary32.nearest value (2 * Nat.pow 5 binary32.gridBits * one) = magnitude := by
  have hden : 0 < 2 * Nat.pow 5 binary32.gridBits * one :=
    Nat.mul_pos (Nat.mul_pos Nat.two_pos binary32.unit_pos) one_pos
  rw [nearest_eq_iff (by decide) hden hfinite]
  have hdouble : ∀ sum, sum * (2 * Nat.pow 5 binary32.gridBits * one) =
      2 * (sum * Nat.pow 5 binary32.gridBits * one) := by
    intro sum
    ring
  have hleft : (binary32.units (magnitude - 1) + binary32.units magnitude) *
      Nat.pow 5 binary32.gridBits * one < value := hlow
  have hright : value < (binary32.units magnitude + binary32.units (magnitude + 1)) *
      Nat.pow 5 binary32.gridBits * one := hhigh
  unfold IsNearest
  rw [hdouble, hdouble]
  split <;> omega

/-- The narrow number nearest to what was read, in the units of intervals. -/
theorem magnitude_convert_reread {z : Binary64} (hfinite : z.isFinite = true) :
    (z.convert .binary32).magnitude =
      binary32.nearest (z.units * Nat.pow 10 binary32.gridBits)
        (2 * Nat.pow 5 binary32.gridBits * one) := by
  rw [Floating.magnitude_convert _ hfinite, ← one_eq]
  refine nearest_congr _ one_pos
    (Nat.mul_pos (Nat.mul_pos Nat.two_pos binary32.unit_pos) one_pos) ?_
  have hten : Nat.pow 10 binary32.gridBits =
      2 * Nat.pow 2 binary32.leastBits * Nat.pow 5 binary32.gridBits := by
    have htwo : Nat.pow 2 binary32.gridBits = 2 * Nat.pow 2 binary32.leastBits := Nat.pow_succ'
    rw [← htwo]
    exact Nat.mul_pow 2 5 _
  rw [hten]
  ring

variable {x : Binary32}

/-- A decimal that is settled, and is the shortest of a number, is read as it. -/
theorem magnitude_of_settled (hfinite : x.isFinite = true)
    (h : settled (x.digits .even) = true) :
    ((reread (x.digits .even)).convert .binary32).magnitude = x.magnitude := by
  have hread := congrArg Floating.magnitude (Floating.toFloating_digits (by decide) hfinite .even)
  rw [DecimalDigits.magnitude_toFloating, ← DecimalDigits.magnitude_toFloating _ false] at hread
  unfold settled at h
  rw [Bool.or_eq_true, beq_iff_eq, bne_iff_ne] at h
  rcases h with hsame | hnot
  · rw [hsame, hread]
  · exact absurd (Floating.digits_congr hread .even) hnot

/-- The shortest digits of a positive number, as a point of a grid: they are few, and their power of
ten is small. -/
structure Shortest (x : Binary32) (coefficient grid : Nat) : Prop where
  digits_eq : x.digits .even = ⟨coefficient, grid - binary32.gridBits⟩
  pos : 0 < coefficient
  few : coefficient ≤ Nat.pow 2 53
  exponent_le : ((grid : Int) - binary32.gridBits).natAbs ≤ 60
  contains : (binary32.interval x.magnitude).contains (Interval.point (coefficient, grid)) = true
  coarse : ∀ k, (binary32.interval x.magnitude).low + Nat.pow 10 k <
    (binary32.interval x.magnitude).high → k ≤ grid

theorem exists_shortest (hfinite : x.isFinite = true) (hpos : 0 < x.magnitude) :
    ∃ coefficient grid, Shortest x coefficient grid := by
  obtain ⟨coefficient, grid, hdigits, hpoint, hgrid⟩ := x.exists_grid hpos .even
  obtain ⟨shift, steps, hparts, hlt⟩ := binary32.exists_parts x.magnitude
  have hshift := shift_lt hparts (of_decide_eq_true hfinite)
  have hbinade : binary32.binade = 8388608 := by decide
  have hbits : binary32.gridBits = 150 := by decide
  have hcoefficient := x.coefficient_le hpos .even
  rw [hdigits] at hcoefficient
  obtain ⟨hcpos, hfew⟩ : 0 < coefficient ∧ 3 * coefficient ≤ 80 * binary32.binade := hcoefficient
  have hcoarse : 90 ≤ grid := by
    apply hgrid
    have hwide := interval_wide hparts hlt hpos
    have hleast : 2 * Nat.pow 10 90 < 3 * Nat.pow 5 binary32.gridBits := by decide
    have hstep : Nat.pow 5 binary32.gridBits ≤ binary32.halfStep shift :=
      Nat.le_mul_of_pos_left _ (Nat.two_pow_pos shift)
    omega
  have hfine : grid < 211 := by
    have hgreatest : Nat.pow 2 25 * binary32.halfStep 254 < Nat.pow 10 211 := by decide
    have hstep : binary32.halfStep shift ≤ binary32.halfStep 254 :=
      Nat.mul_le_mul_right _ (Nat.pow_le_pow_right Nat.two_pos (by omega))
    have hsteps : 2 * steps + 1 ≤ Nat.pow 2 25 := by
      show _ ≤ 33554432
      omega
    have hpower : Nat.pow 10 grid < Nat.pow 10 211 :=
      calc Nat.pow 10 grid ≤ Interval.point (coefficient, grid) := Nat.le_mul_of_pos_left _ hcpos
        _ ≤ (2 * steps + 1) * binary32.halfStep shift :=
          interval_high_eq hparts hlt ▸ Interval.le_high_of_contains hpoint
        _ ≤ Nat.pow 2 25 * binary32.halfStep 254 := Nat.mul_le_mul hsteps hstep
        _ < Nat.pow 10 211 := hgreatest
    exact (Nat.pow_lt_pow_iff_right (by decide)).1 hpower
  refine ⟨coefficient, grid, hdigits, hcpos, ?_, by omega, hpoint, hgrid⟩
  show coefficient ≤ 9007199254740992
  omega

namespace Shortest

variable {coefficient grid : Nat}

theorem isFinite_reread (h : Shortest x coefficient grid) :
    (reread (x.digits .even)).isFinite = true :=
  h.digits_eq ▸ (reread_within (d := ⟨coefficient, grid - binary32.gridBits⟩) h.pos h.few
    h.exponent_le).1

theorem within (h : Shortest x coefficient grid) :
    binary64.Within 2 ((reread (x.digits .even)).units * Nat.pow 10 binary32.gridBits)
      (Interval.point (coefficient, grid) * one) :=
  h.digits_eq ▸ units_reread_within h.pos h.few h.exponent_le

theorem gridFor_le (h : Shortest x coefficient grid) {shift : Nat} (hshift : shift < 254)
    (hwide : 2 * (binary32.interval x.magnitude).low + 3 * binary32.halfStep shift ≤
      2 * (binary32.interval x.magnitude).high) : gridFor shift ≤ grid := by
  obtain ⟨hgrid, -, -⟩ := gridFor_spec shift hshift
  apply h.coarse
  omega

/-- Digits on a half-way point are read as it is, and then rounded as they are. -/
theorem convert_of_halfway (h : Shortest x coefficient grid) (hfinite : x.isFinite = true)
    {magnitude shift steps : Nat} (hparts : binary32.Parts magnitude shift steps)
    (hlt : steps < 2 * binary32.binade)
    (hmiddle : Interval.point (coefficient, grid) = (binary32.interval magnitude).high) :
    ((reread (x.digits .even)).convert .binary32).magnitude = x.magnitude := by
  have hbinade : binary32.binade = 8388608 := by decide
  have hexponent := exponent_of_halfway h.pos h.few (by omega)
    (hmiddle.trans (interval_high_eq hparts hlt))
  have hexact := units_reread_of_halfway h.pos h.few hexponent hmiddle
  have hden : 0 < 2 * Nat.pow 5 binary32.gridBits := Nat.mul_pos Nat.two_pos binary32.unit_pos
  have hnearest := (contains_interval_iff _).1 h.contains
  rw [← nearest_eq_iff (by decide) hden (of_decide_eq_true hfinite)] at hnearest
  rw [← h.digits_eq] at hexact
  rw [magnitude_convert_reread h.isFinite_reread, hexact, nearest_scale _ one_pos]
  exact hnearest

/-- Where reading crosses a half-way point, the digits are on it or the search has settled them. -/
theorem convert_of_crosses (h : Shortest x coefficient grid) (hfinite : x.isFinite = true)
    {magnitude shift steps : Nat} (hparts : binary32.Parts magnitude shift steps)
    (hlt : steps < 2 * binary32.binade) (hmagnitude : magnitude < binary32.infinity)
    (hwide : 2 * (binary32.interval x.magnitude).low + 3 * binary32.halfStep shift ≤
      2 * (binary32.interval x.magnitude).high)
    (hcrosses : Crosses (Interval.point (coefficient, grid)) (binary32.interval magnitude).high
      ((reread (x.digits .even)).units * Nat.pow 10 binary32.gridBits)) :
    ((reread (x.digits .even)).convert .binary32).magnitude = x.magnitude := by
  by_cases hmiddle : Interval.point (coefficient, grid) = (binary32.interval magnitude).high
  · exact h.convert_of_halfway hfinite hparts hlt hmiddle
  · have hgrid := h.gridFor_le (shift_lt hparts hmagnitude) hwide
    have hmiss := nearMiss_of_crosses hparts hlt hmagnitude h.pos hgrid h.within hcrosses hmiddle
    exact magnitude_of_settled hfinite (h.digits_eq ▸ hmiss.settled)

end Shortest

theorem convert_reread_of_pos (hfinite : x.isFinite = true) (hpos : 0 < x.magnitude) :
    (reread (x.digits .even)).isFinite = true ∧
    ((reread (x.digits .even)).convert .binary32).magnitude = x.magnitude := by
  obtain ⟨coefficient, grid, h⟩ := exists_shortest hfinite hpos
  have hlt : x.magnitude < binary32.infinity := of_decide_eq_true hfinite
  have hlow := Interval.low_le_of_contains h.contains
  have hhigh := Interval.le_high_of_contains h.contains
  refine ⟨h.isFinite_reread, ?_⟩
  generalize hvalue : (reread (x.digits .even)).units * Nat.pow 10 binary32.gridBits = value
  rcases Nat.lt_or_ge value ((binary32.interval x.magnitude).high * one) with hbelow | habove
  · rcases Nat.lt_or_ge ((binary32.interval x.magnitude).low * one) value with hinside | hunder
    · rw [magnitude_convert_reread h.isFinite_reread, hvalue]
      exact nearest_of_between hlt hinside hbelow
    · -- The half-way point below belongs to the number before.
      obtain ⟨previous, hprevious⟩ : ∃ previous, x.magnitude = previous + 1 :=
        ⟨x.magnitude - 1, by omega⟩
      obtain ⟨shift, steps, hparts, hsteps⟩ := binary32.exists_parts previous
      have hwide := interval_wide_succ hparts hsteps
      rw [hprevious, interval_low_succ] at hlow hunder
      rw [← hprevious] at hwide
      exact h.convert_of_crosses hfinite hparts hsteps (by omega) hwide
        (.inr ⟨hlow, hvalue ▸ hunder⟩)
  · obtain ⟨shift, steps, hparts, hsteps⟩ := binary32.exists_parts x.magnitude
    exact h.convert_of_crosses hfinite hparts hsteps hlt (interval_wide hparts hsteps hpos)
      (.inl ⟨hhigh, hvalue ▸ habove⟩)

/-- The shortest digits of a narrow float, read with limited precision as a wide one, are nearest to
the narrow float they are of. -/
theorem convert_reread (hfinite : x.isFinite = true) :
    (reread (x.digits .even)).isFinite = true ∧
    ((reread (x.digits .even)).convert .binary32).magnitude = x.magnitude := by
  rcases Nat.eq_zero_or_pos x.magnitude with hzero | hpos
  · have hdigits : (reread ⟨0, 0⟩).isFinite = true ∧
        ((reread ⟨0, 0⟩).convert .binary32).magnitude = 0 := by decide +kernel
    rw [Floating.digits_zero .even hzero, hzero]
    exact hdigits
  · exact convert_reread_of_pos hfinite hpos

theorem exponent_le (hfinite : x.isFinite = true) : (x.digits .even).exponent.natAbs ≤ 60 := by
  rcases Nat.eq_zero_or_pos x.magnitude with hzero | hpos
  · rw [Floating.digits_zero .even hzero]
    exact Nat.zero_le 60
  · obtain ⟨coefficient, grid, h⟩ := exists_shortest hfinite hpos
    rw [h.digits_eq]
    exact h.exponent_le

/-- A whole number is read exactly, also with the one zero more. -/
theorem scaled?_narrow (hfinite : x.isFinite = true) :
    scaled? (Floating.ofNat .binary64 x.documentDigits.coefficient) x.documentDigits.exponent =
      some (reread (x.digits .even)) := by
  obtain ⟨hrange, -⟩ := convert_reread hfinite
  rcases x.documentDigits_cases 13 rfl with hsame | ⟨zeros, h, hzeros, hlt, hread⟩
  · rw [hsame]
    exact scaled?_eq_rescaled (Nat.le_trans (exponent_le hfinite) (by decide)) hrange
  · have hsameValue : x.documentDigits.SameValue (x.digits .even) :=
      DecimalDigits.asRead_sameValue _ _
    have hlarger : (x.digits .even).coefficient * 10 ^ (zeros + 1) ≤ Nat.pow 2 53 :=
      Nat.le_trans (Nat.le_of_lt hlt) (by decide)
    have hdigits : (x.digits .even).coefficient ≤ Nat.pow 2 53 :=
      Nat.le_trans (Nat.le_mul_of_pos_right _ (Nat.pow_pos (Nat.succ_pos 9))) hlarger
    have hsmall : (x.digits .even).exponent.natAbs ≤ exactPower := by
      rw [h]
      exact Nat.le_trans (Nat.le_of_lt hzeros) (by decide)
    have hplace : x.documentDigits.exponent.natAbs = 1 := hread ▸ rfl
    have hwhole : reread x.documentDigits = reread (x.digits .even) := by
      rw [reread_exact (hread ▸ hlarger) (hplace ▸ by decide), reread_exact hdigits hsmall,
        DecimalDigits.toFloating_congr _ _ hsameValue]
    rw [← hwhole] at hrange ⊢
    exact scaled?_eq_rescaled (hplace ▸ by decide) hrange

end Json
end CheckedSelect
