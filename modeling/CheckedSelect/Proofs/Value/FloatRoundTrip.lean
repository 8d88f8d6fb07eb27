import CheckedSelect.Proofs.Json.LimitedPrecision
import CheckedSelect.Proofs.Json.NearMisses
import CheckedSelect.Proofs.Value.RoundTrip

/-!
# CheckedSelect.Proofs.Value.FloatRoundTrip

A literal that is a float is read from its own document.

* `floating_reads`: the text of a float, by what its digits are scaled to.
* `floats_reread`: a narrow float is read as the same float. A wide one is read with limited precision:
  as a float close to it, and as the same float if it has few digits and a small power of ten.
* `Tiny.not_reread`: with a larger power of ten it may be another one.
-/

namespace CheckedSelect
namespace Json

open FloatFormat

variable {f : FloatFormat}

/-- The text of a float is read as its digits, scaled and with its sign. -/
theorem floating_reads (g : FloatFormat) (expected : String) {x : Floating f}
    (hfinite : x.isFinite = true) (hword : x.documentDigits.coefficient < Nat.pow 2 64) {z : Binary64}
    (hscaled : scaled? (Floating.ofNat .binary64 x.documentDigits.coefficient)
      x.documentDigits.exponent = some z) :
    ReadsValue (floating g expected) ((FloatLayout.json f).write x)
      ((if x.negative then z.negate else z).convert g) := by
  obtain ⟨t, hsign, hgives, hspelled⟩ := Floating.exists_spelled hfinite
  have hvalue := hgives.value? hword hscaled
  rw [hsign] at hvalue
  exact floating_spelled g expected hspelled hvalue

theorem signed_parts {z : Floating f} (hz : z.negative = false) (negative : Bool) :
    (if negative then z.negate else z).negative = negative ∧
      (if negative then z.negate else z).magnitude = z.magnitude := by
  cases negative with
  | false => exact ⟨hz, rfl⟩
  | true => exact ⟨congrArg not hz, rfl⟩

theorem isFinite_signed {z : Floating f} (h : z.isFinite = true) (negative : Bool) :
    (if negative then z.negate else z).isFinite = true := by
  cases negative with
  | false => exact h
  | true => exact h

/-- Rounded twice, a narrow float is still the same. -/
theorem narrow_reads (expected : String) {x : Binary32} (hfinite : x.isFinite = true) :
    ReadsValue (floating .binary32 expected) ((FloatLayout.json .binary32).write x) x := by
  obtain ⟨hwide, hmagnitude⟩ := convert_reread hfinite
  have hword : x.documentDigits.coefficient < Nat.pow 2 64 :=
    x.documentDigits_lt 13 rfl (by decide) (by decide)
  have hread := floating_reads .binary32 expected hfinite hword (scaled?_narrow hfinite)
  have hsigned := isFinite_signed hwide x.negative
  obtain ⟨hsign, hsame⟩ := signed_parts (negative_reread (x.digits .even)) x.negative
  have hself : (if x.negative then (reread (x.digits .even)).negate
      else reread (x.digits .even)).convert .binary32 = x := by
    rw [Floating.ext_iff_parts, Floating.negative_convert _ hsigned,
      Floating.magnitude_convert _ hsigned]
    refine ⟨hsign, ?_⟩
    rw [Floating.magnitude_convert _ hwide] at hmagnitude
    unfold Floating.units at hmagnitude ⊢
    rw [hsame]
    exact hmagnitude
  rw [hself] at hread
  exact hread

/-- A wide float is read as what its digits are scaled to. -/
theorem wide_reads (expected : String) {y : Binary64} (hfinite : y.isFinite = true) {z : Binary64}
    (hscaled : scaled? (Floating.ofNat .binary64 y.documentDigits.coefficient)
      y.documentDigits.exponent = some z) (hz : z.isFinite = true) :
    ReadsValue (floating .binary64 expected) ((FloatLayout.json .binary64).write y)
      (if y.negative then z.negate else z) := by
  have hword : y.documentDigits.coefficient < Nat.pow 2 64 :=
    y.documentDigits_lt 16 rfl (by decide) (by decide)
  have hread := floating_reads .binary64 expected hfinite hword hscaled
  rw [Floating.convert_self (by decide) (isFinite_signed hz y.negative)] at hread
  exact hread

end Json

namespace Value

open Json

theorem parse_of_payload {v w : Value} (hnull : v.variant ≠ .null)
    (h : ReadsValue (payloadReader v.variant) v.payload w) :
    parse (String.ofList v.encode) = .ok w := by
  have hread : ReadsValue reader v.encode w := by
    rw [encode_eq hnull]
    exact choice_single (Variant.ofName?_name v.variant) h
  exact hread.parse

theorem parse_float32 {x : Binary32} (hfinite : x.isFinite = true) :
    parse (String.ofList (float32 x).encode) = .ok (.float32 x) :=
  parse_of_payload (v := .float32 x) nofun ((narrow_reads "f32" hfinite).map Value.float32)

theorem parse_float64 {y : Binary64} (hfinite : y.isFinite = true) {z : Binary64}
    (hscaled : scaled? (Floating.ofNat .binary64 y.documentDigits.coefficient)
      y.documentDigits.exponent = some z) (hz : z.isFinite = true) :
    parse (String.ofList (float64 y).encode) =
      .ok (.float64 (if y.negative then z.negate else z)) :=
  parse_of_payload (v := .float64 y) nofun ((wide_reads "f64" hfinite hscaled hz).map Value.float64)

/-- The digits in the text of a wide float fit the fraction, and a float holds their power of ten. -/
def Short (y : Binary64) : Prop :=
  y.documentDigits.coefficient ≤ Nat.pow 2 53 ∧ y.documentDigits.exponent.natAbs ≤ exactPower

instance (y : Binary64) : Decidable (Short y) := inferInstanceAs (Decidable (_ ∧ _))

/-- What a wide float is read as. -/
structure RereadAs (y z : Binary64) : Prop where
  negative_eq : z.negative = y.negative
  finite : z.isFinite = true
  le_add : z.magnitude ≤ y.magnitude + 4
  add_ge : y.magnitude ≤ z.magnitude + 4
  scaled : scaled? (Floating.ofNat .binary64 y.documentDigits.coefficient)
    y.documentDigits.exponent = some { z with negative := false }
  eq_of_short : Short y → z = y

theorem rereadAs_signed {y z : Binary64}
    (hscaled : scaled? (Floating.ofNat .binary64 y.documentDigits.coefficient)
      y.documentDigits.exponent = some z) (hclose : Close y.magnitude z)
    (hshort : Short y → z.magnitude = y.magnitude) :
    RereadAs y (if y.negative then z.negate else z) := by
  obtain ⟨hsign, hmagnitude⟩ := signed_parts hclose.positive y.negative
  refine ⟨hsign, isFinite_signed hclose.finite y.negative, ?_, ?_, ?_, ?_⟩
  · rw [hmagnitude]
    exact hclose.le_add
  · rw [hmagnitude]
    exact hclose.add_ge
  · rw [hscaled, Option.some.injEq, Floating.ext_iff_parts]
    exact ⟨hclose.positive, hmagnitude.symm⟩
  · intro h
    rw [Floating.ext_iff_parts]
    exact ⟨hsign, hmagnitude.trans (hshort h)⟩

/-- Writing a finite float and reading it again gives the same float, if it is narrow. If it is wide it
gives a finite float of its sign that is at most four floats away, and the same one if its digits are
few and their power of ten is small. -/
theorem floats_reread :
    (∀ x : Binary32, x.isFinite = true →
      parse (String.ofList (float32 x).encode) = .ok (.float32 x)) ∧
    ∀ y : Binary64, y.isFinite = true →
      ∃ z, parse (String.ofList (float64 y).encode) = .ok (.float64 z) ∧ RereadAs y z := by
  constructor
  · intro x hfinite
    exact parse_float32 hfinite
  · intro y hfinite
    obtain ⟨z, hscaled, hclose⟩ := scaled?_wide hfinite
    refine ⟨_, parse_float64 hfinite hscaled hclose.finite, rereadAs_signed hscaled hclose ?_⟩
    rintro ⟨hdigits, hexponent⟩
    obtain ⟨same, hexact, -, hmagnitude⟩ := scaled?_wide_exact hfinite hdigits hexponent
    rw [hscaled] at hexact
    cases hexact
    exact hmagnitude

namespace Tiny

/-- The least positive narrow float. -/
def leastNarrow : Binary32 := Floating.ofBits .binary32 1

/-- A tenth below zero. -/
def minusTenth : Binary64 := Floating.ofBits .binary64 0xbfb999999999999a

theorem least_and_tenth_reread :
    leastNarrow.isFinite = true ∧ minusTenth.isFinite = true ∧ Short minusTenth ∧
    parse (String.ofList (float32 leastNarrow).encode) = .ok (.float32 leastNarrow) ∧
    parse (String.ofList (float64 minusTenth).encode) = .ok (.float64 minusTenth) := by
  have hleast : leastNarrow.isFinite = true := by decide +kernel
  have htenth : minusTenth.isFinite = true := by decide +kernel
  have hshort : Short minusTenth := by decide +kernel
  obtain ⟨hnarrow, hwide⟩ := floats_reread
  obtain ⟨z, hread, hz⟩ := hwide minusTenth htenth
  rw [hz.eq_of_short hshort] at hread
  exact ⟨hleast, htenth, hshort, hnarrow leastNarrow hleast, hread⟩

/-- The wide float of the text `1e-23`. -/
def tiny : Binary64 := Floating.ofBits .binary64 0x3b282db34012b251

/-- The next larger one. -/
def afterTiny : Binary64 := Floating.ofBits .binary64 0x3b282db34012b252

/-- With one digit, but a power of ten that no float holds exactly. -/
theorem not_reread :
    tiny.isFinite = true ∧ (float64 tiny).encode = "\x7b\"F64\":1e-23\x7d".toList ∧
    parse (String.ofList (float64 tiny).encode) = .ok (.float64 afterTiny) ∧
    afterTiny.toBits ≠ tiny.toBits := by
  have hfinite : tiny.isFinite = true := by decide +kernel
  have hread : reread tiny.documentDigits = afterTiny := by decide +kernel
  have hexponent : tiny.documentDigits.exponent.natAbs ≤ greatestPower := by decide +kernel
  have hafter : afterTiny.isFinite = true := by decide +kernel
  have hscaled : scaled? (Floating.ofNat .binary64 tiny.documentDigits.coefficient)
      tiny.documentDigits.exponent = some afterTiny := by
    rw [← hread] at hafter ⊢
    exact scaled?_eq_rescaled hexponent hafter
  have hparse := parse_float64 hfinite hscaled hafter
  have hpositive : tiny.negative = false := by decide +kernel
  rw [hpositive, if_neg Bool.false_ne_true] at hparse
  exact ⟨hfinite, by decide +kernel, hparse, by decide +kernel⟩

end Tiny

end Value
end CheckedSelect
