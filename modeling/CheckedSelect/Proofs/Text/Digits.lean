import CheckedSelect.Text.Digits
import Mathlib.Algebra.Group.Nat.Defs

/-!
# CheckedSelect.Proofs.Text.Digits

Reading a number back from its digits.

* `NoDigitNext`: what follows a run of digits is no digit.
* `decimalValue_padded`, `hex?_padded`: the value of written digits, zeros in front included.
* `number?_padded`: a run of at most so many digits, up to what follows it.
* `head_toDigits_ne_zero`: only the number zero is written with a zero in front.
-/

namespace CheckedSelect
namespace Text

/-! ## Digits -/

def NoDigitNext (rest : List Char) : Prop := ∀ c ∈ rest.head?, c.isDigit = false

theorem NoDigitNext.nil : NoDigitNext [] := by
  intro c hc
  cases hc

theorem NoDigitNext.cons {c : Char} (h : c.isDigit = false) (rest : List Char) :
    NoDigitNext (c :: rest) := by
  intro d hd
  cases hd
  exact h

theorem isDigit_of_mem_toDigits {c : Char} {n : Nat} (h : c ∈ Nat.toDigits 10 n) :
    c.isDigit = true :=
  Nat.isDigit_of_mem_toDigits (by decide) (by decide) h

theorem isDigit_of_mem_padded {c : Char} {width n : Nat} (h : c ∈ padded 10 width n) :
    c.isDigit = true := by
  rcases List.mem_append.1 h with h | h
  · rw [List.eq_of_mem_replicate h]
    decide
  · exact isDigit_of_mem_toDigits h

theorem exists_digit_cons {digits : List Char} (hne : digits ≠ [])
    (h : ∀ c ∈ digits, c.isDigit = true) :
    ∃ c more, digits = c :: more ∧ c.isDigit = true := by
  obtain ⟨c, more, rfl⟩ := List.exists_cons_of_ne_nil hne
  exact ⟨c, more, rfl, h c List.mem_cons_self⟩

theorem padded_ne_nil (base width n : Nat) : padded base width n ≠ [] :=
  List.append_ne_nil_of_right_ne_nil _ Nat.toDigits_ne_nil

theorem padded_eq_cons (width n : Nat) :
    ∃ c more, padded 10 width n = c :: more ∧ c.isDigit = true :=
  exists_digit_cons (padded_ne_nil 10 width n) fun _ hc => isDigit_of_mem_padded hc

/-- Digits that fit are filled up to the width. -/
theorem length_padded {base width n : Nat} (hbase : 1 < base) (hwidth : 0 < width)
    (h : n < base ^ width) : (padded base width n).length = width := by
  have hfit : (Nat.toDigits base n).length ≤ width := (Nat.length_toDigits_le_iff hbase hwidth).2 h
  simp only [padded, List.length_append, List.length_replicate]
  omega

/-- Digits are cut so many places before their end, with some of them left in front. -/
theorem exists_places (places n : Nat) : ∃ whole fraction : List Char,
    padded 10 (places + 1) n = whole ++ fraction ∧ whole ≠ [] ∧ fraction.length = places ∧
    (padded 10 (places + 1) n).take ((padded 10 (places + 1) n).length - places) = whole ∧
    (padded 10 (places + 1) n).drop ((padded 10 (places + 1) n).length - places) = fraction := by
  have hlength : places + 1 ≤ (padded 10 (places + 1) n).length := by
    simp only [padded, List.length_append, List.length_replicate]
    omega
  refine ⟨_, _, (List.take_append_drop _ _).symm, ?_, ?_, rfl, rfl⟩
  · apply List.ne_nil_of_length_pos
    rw [List.length_take]
    omega
  · rw [List.length_drop]
    omega

theorem head_toDigits_ne_zero {n : Nat} (h : 0 < n) : (Nat.toDigits 10 n).head? ≠ some '0' := by
  induction n using Nat.strongRecOn with
  | ind n ih =>
    rw [Nat.toDigits_eq_if (by decide)]
    split
    · simp only [List.head?_cons, ne_eq, Option.some.injEq, Nat.digitChar_eq_zero]
      omega
    · have hhead := ih (n / 10) (by omega) (by omega)
      cases hdigits : Nat.toDigits 10 (n / 10) with
      | nil => exact absurd hdigits Nat.toDigits_ne_nil
      | cons c digits =>
        rw [hdigits] at hhead
        exact hhead

/-- Cut so many places before its end, a positive number has a zero in front only for want of other
digits. -/
theorem head_of_places {places n : Nat} {whole fraction : List Char} (hpos : 0 < n)
    (h : padded 10 (places + 1) n = whole ++ fraction) (hplaces : fraction.length = places) :
    whole ≠ [] ∧ (whole.head? = some '0' → whole = ['0']) := by
  have hlength := congrArg List.length h
  simp only [padded, List.length_append, List.length_replicate] at hlength
  have hwhole : whole ≠ [] := List.ne_nil_of_length_pos (by omega)
  refine ⟨hwhole, ?_⟩
  obtain ⟨c, more, rfl⟩ := List.exists_cons_of_ne_nil hwhole
  intro hhead
  cases hhead
  rcases Nat.lt_or_ge places (Nat.toDigits 10 n).length with hlong | hshort
  · have hfill : places + 1 - (Nat.toDigits 10 n).length = 0 := by omega
    have hzero := head_toDigits_ne_zero hpos
    simp only [padded, hfill, List.replicate_zero, List.nil_append] at h
    rw [h] at hzero
    exact absurd rfl hzero
  · rw [List.length_cons] at hlength
    have hnone : more = [] := List.eq_nil_of_length_eq_zero (by omega)
    rw [hnone]

/-! ## Decimal values -/

theorem le_ofDigitChars (digits : List Char) (init : Nat) :
    init ≤ Nat.ofDigitChars 10 digits init := by
  induction digits generalizing init with
  | nil => exact Nat.le_refl init
  | cons c digits ih =>
    rw [Nat.ofDigitChars_cons]
    have hstep := ih (10 * init + (c.toNat - '0'.toNat))
    omega

@[simp] theorem decimalValue_padded (width n : Nat) : decimalValue (padded 10 width n) = n := by
  rw [decimalValue, padded, Nat.ofDigitChars_append, Nat.ofDigitChars_replicate_zero, Nat.mul_zero]
  exact decimalValue_toDigits n

/-- A factor ten is a zero at the end. -/
theorem toDigits_mul_pow {n : Nat} (h : 0 < n) (zeros : Nat) :
    Nat.toDigits 10 (n * 10 ^ zeros) = Nat.toDigits 10 n ++ List.replicate zeros '0' := by
  induction zeros with
  | zero => rw [Nat.pow_zero, Nat.mul_one, List.replicate_zero, List.append_nil]
  | succ zeros ih =>
    have hpos : 0 < n * 10 ^ zeros := Nat.mul_pos h (Nat.pow_pos (by decide))
    have hnext : n * 10 ^ (zeros + 1) = 10 * (n * 10 ^ zeros) + 0 := by
      rw [Nat.pow_succ, ← Nat.mul_assoc, Nat.mul_comm, Nat.add_zero]
    rw [hnext, ← Nat.toDigits_append_toDigits (by decide) hpos (by decide), ih,
      List.replicate_succ', List.append_assoc]
    rfl

theorem takeWhile_isDigit_append {digits rest : List Char} (h : ∀ c ∈ digits, c.isDigit = true)
    (hrest : NoDigitNext rest) : (digits ++ rest).takeWhile Char.isDigit = digits := by
  rw [List.takeWhile_append_of_pos h]
  cases rest with
  | nil => simp
  | cons c rest =>
    have hc : ¬ c.isDigit = true := by simp [hrest c rfl]
    rw [List.takeWhile_cons_of_neg hc, List.append_nil]

theorem dropWhile_isDigit_append {digits rest : List Char} (h : ∀ c ∈ digits, c.isDigit = true)
    (hrest : NoDigitNext rest) : (digits ++ rest).dropWhile Char.isDigit = rest := by
  rw [List.dropWhile_append_of_pos h]
  cases rest with
  | nil => rfl
  | cons c rest =>
    have hc : ¬ c.isDigit = true := by simp [hrest c rfl]
    rw [List.dropWhile_cons_of_neg hc]

theorem digitRun_of_digits {limit : Nat} {digits rest : List Char}
    (h : ∀ c ∈ digits, c.isDigit = true) (hlimit : digits.length ≤ limit)
    (hrest : NoDigitNext rest) : digitRun limit (digits ++ rest) = (digits, rest) := by
  induction digits generalizing limit with
  | nil =>
    cases limit with
    | zero => rfl
    | succ limit =>
      cases rest with
      | nil => rfl
      | cons c rest => simp [digitRun, hrest c rfl]
  | cons c digits ih =>
    obtain ⟨hc, hdigits⟩ := List.forall_mem_cons.1 h
    cases limit with
    | zero => simp at hlimit
    | succ limit =>
      have hrun := ih hdigits (Nat.le_of_succ_le_succ hlimit)
      rw [List.cons_append, digitRun, if_pos hc, hrun]

/-- A written number is read whole, whatever its width, when its digits are not too many. -/
theorem number?_padded {limit width n : Nat} {rest : List Char}
    (hlimit : (padded 10 width n).length ≤ limit) (hrest : NoDigitNext rest) :
    number? limit (padded 10 width n ++ rest) = some (n, rest) := by
  have hrun : digitRun limit (padded 10 width n ++ rest) = (padded 10 width n, rest) :=
    digitRun_of_digits (fun _ hc => isDigit_of_mem_padded hc) hlimit hrest
  unfold number?
  rw [hrun]
  split
  · next heq =>
    exact absurd (Prod.mk.inj heq).1 (padded_ne_nil 10 width n)
  · next heq =>
    obtain ⟨rfl, rfl⟩ := Prod.mk.inj heq
    rw [decimalValue_padded]

/-! ## Hexadecimal values -/

theorem hexDigit?_digitChar {d : Nat} (h : d < 16) : hexDigit? (Nat.digitChar d) = some d := by
  revert d
  decide

theorem hexFrom?_append (high : Nat) (a b : List Char) :
    hexFrom? high (a ++ b) = (hexFrom? high a).bind fun n => hexFrom? n b := by
  induction a generalizing high with
  | nil => rfl
  | cons c a ih =>
    rw [List.cons_append, hexFrom?, hexFrom?]
    cases hexDigit? c with
    | none => rfl
    | some d => exact ih _

theorem hex?_toDigits (n : Nat) : hex? (Nat.toDigits 16 n) = some n := by
  induction n using Nat.strongRecOn with
  | ind n ih =>
    rw [Nat.toDigits_eq_if (by decide)]
    split
    · next h =>
      rw [hex?, hexFrom?, hexDigit?_digitChar h]
      simp [hexFrom?]
    · have hlast : hexDigit? (Nat.digitChar (n % 16)) = some (n % 16) :=
        hexDigit?_digitChar (Nat.mod_lt n (by decide))
      have hfirst : hexFrom? 0 (Nat.toDigits 16 (n / 16)) = some (n / 16) := ih (n / 16) (by omega)
      rw [hex?, hexFrom?_append, hfirst, Option.bind_some, hexFrom?, hlast]
      simp only [hexFrom?, Option.some.injEq]
      omega

theorem hexFrom?_zeros (k : Nat) (digits : List Char) :
    hexFrom? 0 (List.replicate k '0' ++ digits) = hexFrom? 0 digits := by
  induction k with
  | zero => rfl
  | succ k ih =>
    rw [List.replicate_succ, List.cons_append, hexFrom?]
    exact ih

@[simp] theorem hex?_padded (width n : Nat) : hex? (padded 16 width n) = some n := by
  rw [hex?, padded, hexFrom?_zeros]
  exact hex?_toDigits n

end Text
end CheckedSelect
