import CheckedSelect.Decimal
import CheckedSelect.Proofs.Text.Digits

/-!
# CheckedSelect.Proofs.Decimal

A decimal is read from its own text with all of its places. Only the sign of a zero is lost.

* `Progress.after`, `magnitude?_digits`: what a run of digits makes of what has been read, as long
  as it fits.
* `magnitude?_body`: the digits of a decimal fit, before and after its point.
* `ofText?_text`: the round trip up to the sign of a zero, which is the same number
  (`agrees_positiveZero`).
-/

namespace CheckedSelect
namespace Decimal

/-! ## Digits -/

/-- More digits read, all of them before the point or all of them after it. -/
def Progress.after (p : Progress) (digits : List Char) : Progress where
  mantissa := Nat.ofDigitChars 10 digits p.mantissa
  scale := if p.pointSeen then p.scale + digits.length else p.scale
  pointSeen := p.pointSeen
  digitSeen := p.digitSeen || !digits.isEmpty

/-- One digit that fits, with a place left for it if it comes after the point. -/
theorem magnitude?_digit {p : Progress} {c : Char} {rest : List Char} (hc : c.isDigit = true)
    (hplace : p.pointSeen = true → p.scale < maxScale)
    (hfit : 10 * p.mantissa + (c.toNat - '0'.toNat) < mantissaLimit) :
    magnitude? p (c :: rest) =
      magnitude? { p with
        mantissa := 10 * p.mantissa + (c.toNat - '0'.toNat)
        scale := if p.pointSeen then p.scale + 1 else p.scale
        digitSeen := true } rest := by
  have hfull : (p.pointSeen && p.scale == maxScale) = false := by
    cases hpoint : p.pointSeen with
    | false => rfl
    | true =>
      have hlt := hplace hpoint
      simpa using Nat.ne_of_lt hlt
  rw [magnitude?, hfull, if_neg Bool.false_ne_true, if_pos hc, if_pos hfit]

theorem magnitude?_digits {p : Progress} {digits rest : List Char}
    (h : ∀ c ∈ digits, c.isDigit = true)
    (hplaces : p.pointSeen = true → p.scale + digits.length ≤ maxScale)
    (hfit : Nat.ofDigitChars 10 digits p.mantissa < mantissaLimit) :
    magnitude? p (digits ++ rest) = magnitude? (p.after digits) rest := by
  induction digits generalizing p with
  | nil => simp [Progress.after]
  | cons c digits ih =>
    obtain ⟨hc, hdigits⟩ := List.forall_mem_cons.1 h
    rw [Nat.ofDigitChars_cons] at hfit
    have hlast := Text.le_ofDigitChars digits (10 * p.mantissa + (c.toNat - '0'.toNat))
    have hplace : p.pointSeen = true → p.scale < maxScale := by
      intro hpoint
      have hroom := hplaces hpoint
      rw [List.length_cons] at hroom
      omega
    rw [List.cons_append, magnitude?_digit hc hplace (by omega)]
    rw [ih hdigits ?_ hfit]
    · congr 1
      simp only [Progress.after, Nat.ofDigitChars_cons, List.isEmpty_cons, Bool.not_false,
        Bool.or_true, Bool.true_or, List.length_cons]
      cases p.pointSeen with
      | false => rfl
      | true => simp [Nat.add_comm, Nat.add_left_comm]
    · intro hpoint
      have hroom := hplaces hpoint
      rw [List.length_cons] at hroom
      simp only [show p.pointSeen = true from hpoint, if_true]
      omega

/-! ## The text of a decimal -/

variable (d : Decimal)

/-- The digits and the point, without the sign. -/
def body : List Char :=
  let digits := Text.padded 10 (d.scale + 1) d.mantissa
  let whole := digits.take (digits.length - d.scale)
  let places := digits.drop (digits.length - d.scale)
  if d.scale = 0 then whole else whole ++ '.' :: places

theorem text_eq : d.text = if d.negative then '-' :: d.body else d.body := rfl

/-- There are digits before the point, and as many after it as there are places. -/
theorem exists_parts : ∃ whole places : List Char,
    Text.padded 10 (d.scale + 1) d.mantissa = whole ++ places ∧ whole ≠ [] ∧
    places.length = d.scale ∧ d.body = if d.scale = 0 then whole else whole ++ '.' :: places := by
  obtain ⟨whole, places, hdigits, hwhole, hplaces, htake, hdrop⟩ :=
    Text.exists_places d.scale d.mantissa
  refine ⟨whole, places, hdigits, hwhole, hplaces, ?_⟩
  rw [← htake, ← hdrop]
  rfl

theorem magnitude?_body : magnitude? ⟨0, 0, false, false⟩ d.body = some (d.mantissa, d.scale) := by
  obtain ⟨whole, places, hdigits, hwhole, hplaces, hbody⟩ := d.exists_parts
  have hvalue : Nat.ofDigitChars 10 places (Nat.ofDigitChars 10 whole 0) = d.mantissa := by
    rw [← Nat.ofDigitChars_append, ← hdigits]
    exact Text.decimalValue_padded (d.scale + 1) d.mantissa
  have hdigit : ∀ c ∈ whole ++ places, c.isDigit = true := by
    intro c hc
    rw [← hdigits] at hc
    exact Text.isDigit_of_mem_padded hc
  have hfit : Nat.ofDigitChars 10 places (Nat.ofDigitChars 10 whole 0) < mantissaLimit := by
    rw [hvalue]
    exact d.mantissa_lt
  have hfirst := Text.le_ofDigitChars places (Nat.ofDigitChars 10 whole 0)
  have hread : ∀ rest, magnitude? ⟨0, 0, false, false⟩ (whole ++ rest) =
      magnitude? ⟨Nat.ofDigitChars 10 whole 0, 0, false, true⟩ rest := by
    intro rest
    rw [magnitude?_digits (fun c hc => hdigit c (List.mem_append_left places hc)) (by simp)
      (Nat.lt_of_le_of_lt hfirst hfit)]
    simp [Progress.after, List.isEmpty_eq_false_iff.2 hwhole]
  rw [hbody]
  by_cases hscale : d.scale = 0
  · have hnone : places = [] := List.eq_nil_of_length_eq_zero (hplaces.trans hscale)
    rw [if_pos hscale, ← List.append_nil whole, hread, hscale, ← hvalue, hnone]
    simp [magnitude?]
  · have hpoint : magnitude? ⟨Nat.ofDigitChars 10 whole 0, 0, false, true⟩ ('.' :: places) =
        magnitude? ⟨Nat.ofDigitChars 10 whole 0, 0, true, true⟩ (places ++ []) := by
      rw [List.append_nil]
      simp [magnitude?]
    have hroom : 0 + places.length ≤ maxScale := by
      rw [hplaces, Nat.zero_add]
      exact d.scale_le
    rw [if_neg hscale, hread, hpoint,
      magnitude?_digits (fun c hc => hdigit c (List.mem_append_right whole hc)) (fun _ => hroom) hfit]
    simp [Progress.after, magnitude?, hvalue, hplaces]

/-! ## Reading -/

/-- The same number, a zero without its sign. -/
def positiveZero : Decimal := { d with negative := d.negative && d.mantissa != 0 }

theorem agrees_positiveZero : d.positiveZero.agrees d = true := by
  have hsigned : d.positiveZero.signed = d.signed := by
    unfold positiveZero signed
    cases hneg : d.negative with
    | false => rfl
    | true =>
      by_cases hzero : d.mantissa = 0
      · simp [hzero]
      · simp [hzero]
  rw [agrees, hsigned]
  exact beq_self_eq_true _

theorem make?_signed (negative : Bool) (hneg : d.negative = negative) :
    make? (if negative then -(d.mantissa : Int) else d.mantissa) d.scale = some d.positiveZero := by
  have hparts : d.mantissa < Nat.pow 2 96 ∧ d.scale ≤ 28 := ⟨d.mantissa_lt, d.scale_le⟩
  cases negative with
  | false =>
    simp [make?, ofParts?, hparts, positiveZero, hneg]
  | true =>
    have hsign : decide (0 < d.mantissa) = (d.mantissa != 0) := by
      by_cases hzero : d.mantissa = 0
      · simp [hzero]
      · simp [hzero, Nat.pos_of_ne_zero hzero]
    simp [make?, ofParts?, hparts, positiveZero, hneg, hsign]

theorem body_digit : ∃ c more, d.body = c :: more ∧ c.isDigit = true := by
  obtain ⟨whole, places, hdigits, hwhole, -, hbody⟩ := d.exists_parts
  have hall : ∀ c ∈ whole, c.isDigit = true := by
    intro c hc
    apply Text.isDigit_of_mem_padded
    rw [hdigits]
    exact List.mem_append_left places hc
  obtain ⟨c, more, rfl, hc⟩ := Text.exists_digit_cons hwhole hall
  rw [hbody]
  split
  · exact ⟨c, more, rfl, hc⟩
  · exact ⟨c, more ++ '.' :: places, rfl, hc⟩

theorem plain?_text : plain? d.text = some d.positiveZero := by
  rw [text_eq]
  cases hneg : d.negative with
  | true =>
    show (magnitude? ⟨0, 0, false, false⟩ d.body).bind _ = _
    rw [magnitude?_body, Option.bind_some]
    exact d.make?_signed true hneg
  | false =>
    obtain ⟨c, more, hbody, hc⟩ := d.body_digit
    show plain? d.body = _
    unfold plain?
    split
    · next heq =>
      rw [hbody] at heq
      cases heq
      cases hc
    · next heq =>
      rw [hbody] at heq
      cases heq
      cases hc
    · show (magnitude? ⟨0, 0, false, false⟩ d.body).bind _ = _
      rw [magnitude?_body, Option.bind_some]
      exact d.make?_signed false hneg

/-- The text of a decimal is read as the same number with the same places. -/
theorem ofText?_text : ofText? d.text = some d.positiveZero := by
  rw [ofText?, plain?_text, Option.some_or]

end Decimal
end CheckedSelect
