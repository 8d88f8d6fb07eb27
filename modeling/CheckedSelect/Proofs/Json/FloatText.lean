import CheckedSelect.Proofs.Floating.Grid
import CheckedSelect.Proofs.Floating.Layout
import CheckedSelect.Proofs.Json.Number

/-!
# CheckedSelect.Proofs.Json.FloatText

The text of a float in a document, and the decimal that a reader takes from it.

* `NumberText.Gives`: the digits and the power of ten of a notation, none of the digits left.
* `DecimalDigits.asRead`: a whole number without an exponent is written with one place, which is read
  as one more digit.
* `exists_spelled`: the text of a finite float is the notation of its shortest digits.
-/

namespace CheckedSelect

/-- The decimal that is read where these digits were written. -/
def DecimalDigits.asRead (d : DecimalDigits) (positional : Bool) : DecimalDigits :=
  match positional, d.exponent with
  | true, .ofNat zeros => ⟨d.coefficient * 10 ^ (zeros + 1), -1⟩
  | _, _ => d

namespace DecimalDigits

theorem asRead_whole {d : DecimalDigits} {zeros : Nat} (h : d.exponent = .ofNat zeros) :
    d.asRead true = ⟨d.coefficient * 10 ^ (zeros + 1), -1⟩ := by
  unfold asRead
  rw [h]

theorem asRead_places {d : DecimalDigits} {n : Nat} (positional : Bool)
    (h : d.exponent = .negSucc n) : d.asRead positional = d := by
  unfold asRead
  rw [h]
  cases positional with
  | false => rfl
  | true => rfl

end DecimalDigits

namespace Json

/-! ## What a notation gives -/

/-- Digits that fit a word are all taken. -/
theorem wordDigits_of_lt {digits : List Char} {value : Nat}
    (h : Nat.ofDigitChars 10 digits value < Nat.pow 2 64) :
    wordDigits value digits = (Nat.ofDigitChars 10 digits value, []) := by
  induction digits generalizing value with
  | nil => rfl
  | cons c digits ih =>
    rw [Nat.ofDigitChars_cons] at h ⊢
    have hnext := Nat.lt_of_le_of_lt (Text.le_ofDigitChars digits _) h
    rw [wordDigits]
    exact (if_pos hnext).trans (ih h)

namespace NumberText

theorem significand_of_lt {n : NumberText}
    (h : Text.decimalValue (n.whole ++ n.fraction.getD []) < Nat.pow 2 64) :
    n.significand = (Text.decimalValue (n.whole ++ n.fraction.getD []),
      -((n.fraction.getD []).length : Int)) := by
  unfold Text.decimalValue at h ⊢
  rw [Nat.ofDigitChars_append] at h ⊢
  have hwhole := Nat.lt_of_le_of_lt (Text.le_ofDigitChars (n.fraction.getD []) _) h
  unfold significand
  rw [wordDigits_of_lt hwhole]
  dsimp only
  rw [wordDigits_of_lt h]
  simp

/-- The notation is that of a float, and all of its digits count. -/
structure Gives (n : NumberText) (d : DecimalDigits) : Prop where
  inexact : (n.fraction.isSome || n.exponent.isSome) = true
  digits_eq : Text.decimalValue (n.whole ++ n.fraction.getD []) = d.coefficient
  exponent_eq : n.exponentValue - (n.fraction.getD []).length = d.exponent

/-- Such a notation is read as its digits, scaled by its power of ten. -/
theorem Gives.value? {n : NumberText} {d : DecimalDigits} (h : n.Gives d)
    (hword : d.coefficient < Nat.pow 2 64) {z : Binary64}
    (hz : scaled? (Floating.ofNat .binary64 d.coefficient) d.exponent = some z) :
    n.value? = some (.float (if n.negative then z.negate else z)) := by
  have hwhole : n.whole? = none := by
    unfold whole?
    exact if_pos h.inexact
  have hsignificand : n.significand = (d.coefficient, -((n.fraction.getD []).length : Int)) := by
    rw [← h.digits_eq] at hword ⊢
    exact significand_of_lt hword
  have hexponent : -((n.fraction.getD []).length : Int) + n.exponentValue = d.exponent := by
    rw [← h.exponent_eq]
    omega
  unfold NumberText.value? float?
  rw [hwhole, hsignificand]
  dsimp only
  rw [hexponent, hz]
  rfl

end NumberText

/-! ## Notations of digits -/

section

variable {d : DecimalDigits}

theorem chars_isDigits (d : DecimalDigits) : IsDigits d.chars := isDigits_toDigits d.coefficient

/-- Zeros at the end, and one place. -/
theorem exists_whole (negative : Bool) {zeros : Nat} (h : d.exponent = .ofNat zeros)
    (hzero : d.coefficient = 0 → zeros = 0) :
    ∃ n : NumberText, n.negative = negative ∧ n.Gives (d.asRead true) ∧
      n.Spelled ((if negative then ['-'] else []) ++ d.positional ".0".toList) := by
  refine ⟨⟨negative, d.chars ++ List.replicate zeros '0', some ['0'], none⟩, rfl, ⟨rfl, ?_, ?_⟩,
    ".0".toList, [], ⟨?_, ?_⟩, ?_, .places (by decide), .absent, ?_⟩
  · show Text.decimalValue (d.chars ++ List.replicate zeros '0' ++ List.replicate 1 '0') = _
    rw [List.append_assoc, List.replicate_append_replicate, DecimalDigits.asRead_whole h]
    exact DecimalDigits.decimalValue_whole d.coefficient (zeros + 1)
  · rw [DecimalDigits.asRead_whole h]
    rfl
  · intro hnil
    exact (chars_isDigits d).1 (List.append_eq_nil_iff.1 hnil).1
  · intro c hc
    rcases List.mem_append.1 hc with hc | hc
    · exact (chars_isDigits d).2 c hc
    · rw [List.eq_of_mem_replicate hc]
      rfl
  · intro hhead
    rcases Nat.eq_zero_or_pos d.coefficient with hcoefficient | hpos
    · show Nat.toDigits 10 d.coefficient ++ List.replicate zeros '0' = ['0']
      rw [hzero hcoefficient, hcoefficient]
      rfl
    · have hne := Text.head_toDigits_ne_zero hpos
      obtain ⟨c, more, hchars, -⟩ := (chars_isDigits d).begins
      rw [hchars] at hhead
      exact absurd (hchars ▸ hhead : d.chars.head? = some '0') hne
  · unfold DecimalDigits.positional
    rw [h]
    simp only [List.append_assoc, List.append_nil]

/-- Places after the point. -/
theorem exists_places (negative : Bool) {n : Nat} (h : d.exponent = .negSucc n)
    (hpos : 0 < d.coefficient) :
    ∃ t : NumberText, t.negative = negative ∧ t.Gives (d.asRead true) ∧
      t.Spelled ((if negative then ['-'] else []) ++ d.positional ".0".toList) := by
  obtain ⟨whole, fraction, htext, hlength, hdigits⟩ := d.exists_positional_parts h
  obtain ⟨hwhole, hzero⟩ := Text.head_of_places hpos hdigits hlength
  have hdigit : ∀ c ∈ whole ++ fraction, c.isDigit = true := by
    rw [← hdigits]
    intro c hc
    exact Text.isDigit_of_mem_padded hc
  have hfraction : IsDigits fraction :=
    ⟨List.ne_nil_of_length_pos (by omega), fun c hc => hdigit c (List.mem_append_right whole hc)⟩
  have hread := DecimalDigits.asRead_places true h
  refine ⟨⟨negative, whole, some fraction, none⟩, rfl, ?_, '.' :: fraction, [],
    ⟨hwhole, fun c hc => hdigit c (List.mem_append_left fraction hc)⟩, hzero, .places hfraction,
    .absent, ?_⟩
  · rw [hread]
    refine ⟨rfl, ?_, ?_⟩
    · show Text.decimalValue (whole ++ fraction) = d.coefficient
      rw [← hdigits, Text.decimalValue_padded]
    · show (0 : Int) - fraction.length = d.exponent
      rw [hlength, h]
      omega
  · have hsuffix : d.positional ".0".toList = d.positional [] := by
      unfold DecimalDigits.positional
      rw [h]
    rw [hsuffix, htext, List.append_nil]

/-- The written exponent is that of the first digit. -/
theorem exponentValue_leading (negative : Bool) (whole : List Char) (fraction : Option (List Char))
    (leading : Int) :
    (NumberText.mk negative whole fraction
      (some (decide (leading < 0), Nat.toDigits 10 leading.natAbs))).exponentValue = leading := by
  simp only [NumberText.exponentValue, Text.decimalValue_toDigits, decide_eq_true_eq]
  split <;> omega

theorem exponentText_leading (leading : Int) :
    ExponentText (some (decide (leading < 0), Nat.toDigits 10 leading.natAbs))
      ('e' :: (if leading < 0 then '-' else '+') :: Nat.toDigits 10 leading.natAbs) := by
  by_cases hneg : leading < 0
  · rw [decide_eq_true hneg, if_pos hneg]
    exact @ExponentText.power 'e' ['-'] _ (.inl rfl) (.inr (.inr rfl)) (isDigits_toDigits _)
  · rw [decide_eq_false hneg, if_neg hneg]
    exact @ExponentText.power 'e' ['+'] _ (.inl rfl) (.inr (.inl rfl)) (isDigits_toDigits _)

/-- One digit, the others after a point, and an exponent. -/
theorem exists_scientific (negative : Bool) (d : DecimalDigits) :
    ∃ t : NumberText, t.negative = negative ∧ t.Gives (d.asRead false) ∧
      t.Spelled ((if negative then ['-'] else []) ++ d.scientific) := by
  have hread : d.asRead false = d := rfl
  have hvalue : Text.decimalValue d.chars = d.coefficient := Text.decimalValue_toDigits _
  have hdigits := chars_isDigits d
  have hleading : d.leading = d.chars.length - 1 + d.exponent := rfl
  rw [hread]
  unfold DecimalDigits.scientific
  cases hchars : d.chars with
  | nil => exact absurd hchars hdigits.1
  | cons first more =>
    rw [hchars] at hvalue hdigits hleading
    obtain ⟨hfirst, hmore⟩ := List.forall_mem_cons.1 hdigits.2
    have hwhole : IsDigits [first] := ⟨List.cons_ne_nil _ _, by simpa using hfirst⟩
    have hzero : [first].head? = some '0' → [first] = ['0'] := by
      intro hhead
      cases hhead
      rfl
    rw [List.length_cons] at hleading
    cases more with
    | nil =>
      refine ⟨⟨negative, [first], none, some (decide (d.leading < 0), _)⟩, rfl, ⟨rfl, hvalue, ?_⟩, [],
        _, hwhole, hzero, .absent, exponentText_leading d.leading, rfl⟩
      rw [exponentValue_leading, hleading]
      show ((0 : Nat) + 1 : Nat) - 1 + d.exponent - ((0 : Nat) : Int) = d.exponent
      omega
    | cons second rest =>
      refine ⟨⟨negative, [first], some (second :: rest), some (decide (d.leading < 0), _)⟩, rfl,
        ⟨rfl, hvalue, ?_⟩, '.' :: second :: rest, _, hwhole, hzero,
        .places ⟨List.cons_ne_nil _ _, hmore⟩, exponentText_leading d.leading, rfl⟩
      rw [exponentValue_leading, hleading]
      show (((second :: rest).length + 1 : Nat) : Int) - 1 + d.exponent -
        ((second :: rest).length : Int) = d.exponent
      omega

/-- Either way the digits are written. -/
theorem exists_notation (negative positional : Bool) (hzero : d.coefficient = 0 → d.exponent = 0) :
    ∃ t : NumberText, t.negative = negative ∧ t.Gives (d.asRead positional) ∧
      t.Spelled ((if negative then ['-'] else []) ++
        if positional then d.positional ".0".toList else d.scientific) := by
  cases positional with
  | false => exact exists_scientific negative d
  | true =>
    cases h : d.exponent with
    | ofNat zeros =>
      refine exists_whole negative h fun hcoefficient => ?_
      have hexponent := hzero hcoefficient
      rw [h] at hexponent
      exact Int.ofNat_eq_zero.1 hexponent
    | negSucc n =>
      refine exists_places negative h (Nat.pos_of_ne_zero fun hcoefficient => ?_)
      rw [hzero hcoefficient] at h
      cases h

end

end Json

/-! ## The text of a float -/

namespace DecimalDigits

/-- The one digit more is a zero. -/
theorem asRead_sameValue (d : DecimalDigits) (positional : Bool) :
    (d.asRead positional).SameValue d := by
  unfold asRead
  split
  · next zeros h =>
    have htoNat : d.exponent.toNat = zeros := by rw [h]; rfl
    have hnone : (-d.exponent).toNat = 0 := by rw [h]; exact Int.toNat_neg_natCast zeros
    unfold SameValue
    rw [htoNat, hnone]
    show d.coefficient * 10 ^ (zeros + 1) * 1 * 1 = d.coefficient * 10 ^ zeros * 10
    rw [Nat.mul_one, Nat.mul_one, Nat.pow_succ, Nat.mul_assoc]
  · exact rfl

/-- A whole number has one place more than its first digit says. -/
theorem whole_lt {d : DecimalDigits} {zeros places : Nat} (h : d.exponent = .ofNat zeros)
    (hleading : d.leading < places) :
    zeros < places ∧ d.coefficient * 10 ^ (zeros + 1) < 10 ^ (places + 1) := by
  unfold leading at hleading
  rw [h] at hleading
  have hsome : 0 < d.chars.length := List.length_pos_iff.2 Nat.toDigits_ne_nil
  have hlength : d.chars.length + zeros ≤ places := by
    have hcast : (Int.ofNat zeros) = (zeros : Int) := rfl
    omega
  have hcoefficient : d.coefficient < 10 ^ d.chars.length :=
    (Nat.length_toDigits_le_iff (by decide) hsome).1 (Nat.le_refl _)
  refine ⟨by omega, ?_⟩
  calc d.coefficient * 10 ^ (zeros + 1)
      < 10 ^ d.chars.length * 10 ^ (zeros + 1) :=
        Nat.mul_lt_mul_of_pos_right hcoefficient (Nat.pow_pos (by decide))
    _ = 10 ^ (d.chars.length + zeros + 1) := (Nat.pow_add 10 _ _).symm
    _ ≤ 10 ^ (places + 1) := Nat.pow_le_pow_right (by decide) (by omega)

end DecimalDigits

namespace Floating

variable {f : FloatFormat} {x : Floating f}

/-- The decimal that is read where a float was written. -/
def documentDigits (x : Floating f) : DecimalDigits :=
  (x.digits .even).asRead ((FloatLayout.json f).positional (x.digits .even).leading)

theorem documentDigits_congr {x y : Floating f} (h : x.magnitude = y.magnitude) :
    x.documentDigits = y.documentDigits := by
  unfold documentDigits
  rw [digits_congr h]

theorem toFloating_documentDigits (hbits : 0 < f.fractionBits) (hfinite : x.isFinite = true) :
    x.documentDigits.toFloating f x.negative = x := by
  unfold documentDigits
  rw [DecimalDigits.toFloating_congr f x.negative (DecimalDigits.asRead_sameValue _ _)]
  exact toFloating_digits hbits hfinite .even

/-- What is read are the shortest digits, or those of a whole number that is not large and one zero
more. -/
theorem documentDigits_cases (x : Floating f) (places : Nat)
    (hplaces : (FloatLayout.jsonRange f).2 = places) :
    x.documentDigits = x.digits .even ∨
    ∃ zeros, (x.digits .even).exponent = .ofNat zeros ∧ zeros < places ∧
      (x.digits .even).coefficient * 10 ^ (zeros + 1) < 10 ^ (places + 1) ∧
      x.documentDigits = ⟨(x.digits .even).coefficient * 10 ^ (zeros + 1), -1⟩ := by
  unfold documentDigits
  cases hpositional : (FloatLayout.json f).positional (x.digits .even).leading with
  | false => exact .inl rfl
  | true =>
    cases h : (x.digits .even).exponent with
    | negSucc n => exact .inl (DecimalDigits.asRead_places true h)
    | ofNat zeros =>
      have hrange : (x.digits .even).leading < (FloatLayout.jsonRange f).2 :=
        of_decide_eq_true (Bool.and_eq_true_iff.1 hpositional).2
      rw [hplaces] at hrange
      obtain ⟨hzeros, hlt⟩ := DecimalDigits.whole_lt h hrange
      exact .inr ⟨zeros, rfl, hzeros, hlt, DecimalDigits.asRead_whole h⟩

theorem documentDigits_pos (hpos : 0 < x.magnitude) (places : Nat)
    (hplaces : (FloatLayout.jsonRange f).2 = places) : 0 < x.documentDigits.coefficient := by
  obtain ⟨hcoefficient, -⟩ := x.coefficient_le hpos .even
  rcases x.documentDigits_cases places hplaces with hsame | ⟨zeros, -, -, -, hread⟩
  · exact hsame ▸ hcoefficient
  · rw [hread]
    exact Nat.mul_pos hcoefficient (Nat.pow_pos (by decide))

theorem documentDigits_lt (x : Floating f) (places : Nat) {bound : Nat}
    (hplaces : (FloatLayout.jsonRange f).2 = places) (hwhole : 10 ^ (places + 1) ≤ bound)
    (hfew : 80 * f.binade < 3 * bound) : x.documentDigits.coefficient < bound := by
  rcases x.documentDigits_cases places hplaces with hsame | ⟨zeros, -, -, hlt, hread⟩
  · rw [hsame]
    rcases Nat.eq_zero_or_pos x.magnitude with hzero | hpos
    · rw [digits_zero .even hzero]
      exact Nat.lt_of_lt_of_le (Nat.pow_pos (by decide)) hwhole
    · have hle := (x.coefficient_le hpos .even).2
      omega
  · rw [hread]
    exact Nat.lt_of_lt_of_le hlt hwhole

open Json in
/-- The text of a finite float is a notation of these digits. -/
theorem exists_spelled (hfinite : x.isFinite = true) :
    ∃ t : NumberText, t.negative = x.negative ∧ t.Gives x.documentDigits ∧
      t.Spelled ((FloatLayout.json f).write x) := by
  have hzero : (x.digits .even).coefficient = 0 → (x.digits .even).exponent = 0 := by
    rcases Nat.eq_zero_or_pos x.magnitude with hnone | hpos
    · intro _
      rw [digits_zero .even hnone]
    · intro hcoefficient
      exact absurd hcoefficient (Nat.ne_of_gt (x.coefficient_le hpos .even).1)
  obtain ⟨t, hnegative, hgives, hspelled⟩ := exists_notation x.negative
    ((FloatLayout.json f).positional (x.digits .even).leading) hzero
  refine ⟨t, hnegative, hgives, ?_⟩
  have hwrite : (FloatLayout.json f).write x = (if x.negative then ['-'] else []) ++
      if (FloatLayout.json f).positional (x.digits .even).leading then
        (x.digits .even).positional ".0".toList else (x.digits .even).scientific := by
    unfold FloatLayout.write
    rw [if_pos hfinite]
    cases x.negative with
    | false => rfl
    | true => rfl
  rw [hwrite]
  exact hspelled

end Floating
end CheckedSelect
