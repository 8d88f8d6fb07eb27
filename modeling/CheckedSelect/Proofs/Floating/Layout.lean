import CheckedSelect.Floating.Layout
import CheckedSelect.Proofs.Floating.Widening
import CheckedSelect.Proofs.Text.Digits
import CheckedSelect.Proofs.Text.SelfDelimiting

/-!
# CheckedSelect.Proofs.Floating.Layout

Numbers as they stand in a statement.

* `SameValue.of_positional`: a text without an exponent says which number it stands for.
* `write_convert_eq_iff`: so a number and the same number widened have the same text exactly when
  the digits of the narrow one are read as the wide one.
-/

namespace CheckedSelect

namespace DecimalDigits

/-! ## Without an exponent -/

theorem positional_whole {d : DecimalDigits} {zeros : Nat} (h : d.exponent = .ofNat zeros) :
    d.positional [] = Nat.toDigits 10 d.coefficient ++ List.replicate zeros '0' := by
  unfold positional
  rw [h]
  exact List.append_nil _

theorem exists_positional_parts {d : DecimalDigits} {n : Nat} (h : d.exponent = .negSucc n) :
    ∃ whole fraction, d.positional [] = whole ++ '.' :: fraction ∧ fraction.length = n + 1 ∧
      Text.padded 10 (n + 1 + 1) d.coefficient = whole ++ fraction := by
  obtain ⟨whole, fraction, hdigits, -, hlength, htake, hdrop⟩ :=
    Text.exists_places (n + 1) d.coefficient
  refine ⟨whole, fraction, ?_, hlength, hdigits⟩
  rw [← htake, ← hdrop]
  unfold positional
  rw [h]
  rfl

theorem decimalValue_whole (n zeros : Nat) :
    Text.decimalValue (Nat.toDigits 10 n ++ List.replicate zeros '0') = n * 10 ^ zeros := by
  have hvalue : Nat.ofDigitChars 10 (Nat.toDigits 10 n) 0 = n := Text.decimalValue_toDigits n
  rw [Text.decimalValue, Nat.ofDigitChars_append, hvalue, Nat.ofDigitChars_replicate_zero,
    Nat.mul_comm]

theorem not_mem_of_isDigit {digits : List Char} (h : ∀ c ∈ digits, c.isDigit = true) :
    '.' ∉ digits := by
  intro hpoint
  cases h '.' hpoint

theorem point_not_mem_parts {width n : Nat} {whole fraction : List Char}
    (h : Text.padded 10 width n = whole ++ fraction) : '.' ∉ whole := by
  apply not_mem_of_isDigit
  intro c hc
  apply Text.isDigit_of_mem_padded
  rw [h]
  exact List.mem_append_left fraction hc

/-- A point stands in the text exactly when there are places after it. -/
theorem point_mem_positional (d : DecimalDigits) : '.' ∈ d.positional [] ↔ d.exponent < 0 := by
  cases h : d.exponent with
  | ofNat zeros =>
    rw [positional_whole h]
    have hpoint : '.' ∉ Nat.toDigits 10 d.coefficient ++ List.replicate zeros '0' := by
      apply not_mem_of_isDigit
      intro c hc
      rcases List.mem_append.1 hc with hc | hc
      · exact Text.isDigit_of_mem_toDigits hc
      · rw [List.eq_of_mem_replicate hc]
        rfl
    exact iff_of_false hpoint (Int.not_lt.2 (Int.natCast_nonneg zeros))
  | negSucc n =>
    obtain ⟨whole, fraction, htext, -, -⟩ := exists_positional_parts h
    rw [htext]
    exact iff_of_true (List.mem_append_right whole List.mem_cons_self) (Int.negSucc_lt_zero n)

/-- The text without its point gives the coefficient, and the places after it the exponent. -/
theorem SameValue.of_positional {a b : DecimalDigits} (h : a.positional [] = b.positional []) :
    a.SameValue b := by
  have hpoint : a.exponent < 0 ↔ b.exponent < 0 := by
    rw [← point_mem_positional, ← point_mem_positional, h]
  unfold SameValue
  cases ha : a.exponent with
  | ofNat zeros =>
    cases hb : b.exponent with
    | ofNat zeros' =>
      rw [positional_whole ha, positional_whole hb] at h
      have hvalue := congrArg Text.decimalValue h
      rw [decimalValue_whole, decimalValue_whole] at hvalue
      have hnone : ∀ n : Nat, (-Int.ofNat n).toNat = 0 := Int.toNat_neg_natCast
      rw [hnone, hnone]
      exact congrArg (· * 1) hvalue
    | negSucc n =>
      rw [ha, hb] at hpoint
      exact absurd (hpoint.2 (Int.negSucc_lt_zero n)) (Int.not_lt.2 (Int.natCast_nonneg zeros))
  | negSucc n =>
    cases hb : b.exponent with
    | ofNat zeros =>
      rw [ha, hb] at hpoint
      exact absurd (hpoint.1 (Int.negSucc_lt_zero n)) (Int.not_lt.2 (Int.natCast_nonneg zeros))
    | negSucc m =>
      obtain ⟨whole, fraction, htext, hlength, hdigits⟩ := exists_positional_parts ha
      obtain ⟨whole', fraction', htext', hlength', hdigits'⟩ := exists_positional_parts hb
      rw [htext, htext'] at h
      obtain ⟨rfl, rfl⟩ := Text.append_inj_of_not_mem (point_not_mem_parts hdigits)
        (point_not_mem_parts hdigits') h
      have hplaces : n = m := by omega
      subst hplaces
      have hcoefficient : a.coefficient = b.coefficient := by
        rw [← Text.decimalValue_padded (n + 1 + 1) a.coefficient, hdigits, ← hdigits',
          Text.decimalValue_padded]
      rw [hcoefficient]

end DecimalDigits

/-! ## With its sign -/

namespace FloatLayout

variable {f g : FloatFormat}

theorem write_sql {x : Floating f} (h : x.isFinite = true) :
    sql.write x =
      if x.negative then '-' :: (x.digits .away).positional []
      else (x.digits .away).positional [] := by
  unfold write
  rw [if_pos h]
  rfl

/-- Widened, a number is written as before exactly when the digits it is written with are nearest to
the wide number. -/
theorem write_convert_eq_iff (h : f.Widens g) {x : Floating f} (hfinite : x.isFinite = true) :
    sql.write (x.convert g) = sql.write x ↔
      (x.digits .away).toFloating g x.negative = x.convert g := by
  obtain ⟨hnegative, hwidefinite, -⟩ := h.convert_spec hfinite
  have hbits : 0 < g.fractionBits := Nat.lt_trans h.fractionBits_pos h.fractionBits_lt
  rw [write_sql hwidefinite, write_sql hfinite, hnegative]
  constructor
  · intro htext
    have hbody : ((x.convert g).digits .away).positional [] = (x.digits .away).positional [] := by
      split at htext
      · exact (List.cons.inj htext).2
      · exact htext
    have hread := Floating.toFloating_digits hbits hwidefinite .away
    rw [DecimalDigits.toFloating_congr g _ (.of_positional hbody), hnegative] at hread
    exact hread
  · intro hread
    rw [(h.digits_convert_eq_iff hfinite .away).2 hread]

end FloatLayout
end CheckedSelect
