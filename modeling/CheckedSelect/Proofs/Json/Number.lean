import CheckedSelect.Proofs.Json.Reading
import CheckedSelect.Proofs.Text.Digits

/-!
# CheckedSelect.Proofs.Json.Number

A whole number of 64 bits is read from its own digits, as the number that it is.

* `NumberText.Spelled`: the ways to write a number. `numberText_spelled`: each is read as the notation
  that it is, up to the end of the value.
* `spelled_intText`, `whole?_toDigits`: the notation of a written whole number, and its value.
* `number_spelled`, `integerWith_reads`, `floating_spelled`: the two together, for readers that accept
  the number.
-/

namespace CheckedSelect
namespace Json

/-! ## Notation -/

theorem intText_eq (n : Int) :
    intText n = if n < 0 then '-' :: Nat.toDigits 10 n.natAbs else Nat.toDigits 10 n.natAbs := by
  rw [intText, Int.toString_eq_repr, Int.repr_eq_if]
  by_cases h : n < 0
  · have habs : (-n).toNat = n.natAbs := by omega
    rw [if_neg (Int.not_le.2 h), if_pos h, String.toList_append, Nat.toList_repr, habs]
    rfl
  · have habs : n.toNat = n.natAbs := by omega
    rw [if_pos (Int.not_lt.1 h), if_neg h, Nat.toList_repr, habs]

/-- Nothing that may follow a value can be a further part of a number. -/
theorem Ends.not_accepted {rest : List Char} (h : Ends rest) {accepted : Char → Bool}
    (hspace : ∀ c, isSpace c = true → accepted c = false) (hcomma : accepted ',' = false)
    (hbrace : accepted '}' = false) (hbracket : accepted ']' = false) :
    ∀ c ∈ rest.head?, accepted c = false := by
  intro c hc
  rcases h c hc with hc | rfl | rfl | rfl
  · exact hspace c hc
  · exact hcomma
  · exact hbrace
  · exact hbracket

theorem isSpace_cases {c : Char} (h : isSpace c = true) :
    c = ' ' ∨ c = '\n' ∨ c = '\t' ∨ c = '\r' := by
  simpa [isSpace, or_assoc] using h

theorem Ends.noDigitNext {rest : List Char} (h : Ends rest) : Text.NoDigitNext rest := by
  refine h.not_accepted ?_ rfl rfl rfl
  intro c hc
  rcases isSpace_cases hc with rfl | rfl | rfl | rfl <;> rfl

theorem take?_none {accepted : Char → Bool} {text : List Char}
    (h : ∀ c ∈ text.head?, accepted c = false) : take? accepted text = .ok (none, text) := by
  cases text with
  | nil => rfl
  | cons c rest =>
    show (if accepted c then _ else _) = _
    rw [h c rfl]
    rfl

theorem take?_some {accepted : Char → Bool} {c : Char} (h : accepted c = true) (rest : List Char) :
    take? accepted (c :: rest) = .ok (some c, rest) :=
  if_pos h

theorem digits_append (cut : ReadError) {found rest : List Char} (hne : found ≠ [])
    (h : ∀ c ∈ found, c.isDigit = true) (hrest : Text.NoDigitNext rest) :
    digits cut (found ++ rest) = .ok (found, rest) := by
  unfold digits
  rw [Text.takeWhile_isDigit_append h hrest, Text.dropWhile_isDigit_append h hrest]
  cases found with
  | nil => exact absurd rfl hne
  | cons c found => rfl

/-- At least one digit. -/
def IsDigits (digits : List Char) : Prop := digits ≠ [] ∧ ∀ c ∈ digits, c.isDigit = true

instance (digits : List Char) : Decidable (IsDigits digits) :=
  decidable_of_iff (digits ≠ [] ∧ digits.all Char.isDigit = true)
    (and_congr_right' List.all_eq_true)

inductive FractionText : Option (List Char) → List Char → Prop where
  | absent : FractionText none []
  | places {digits : List Char} : IsDigits digits → FractionText (some digits) ('.' :: digits)

inductive ExponentText : Option (Bool × List Char) → List Char → Prop where
  | absent : ExponentText none []
  | power {letter : Char} {sign digits : List Char} :
      letter = 'e' ∨ letter = 'E' → sign = [] ∨ sign = ['+'] ∨ sign = ['-'] → IsDigits digits →
      ExponentText (some (sign == ['-'], digits)) (letter :: (sign ++ digits))

/-- The ways to write a number. Only the number zero begins with a zero. -/
def NumberText.Spelled (n : NumberText) (text : List Char) : Prop :=
  ∃ fraction exponent, IsDigits n.whole ∧ (n.whole.head? = some '0' → n.whole = ['0']) ∧
    FractionText n.fraction fraction ∧ ExponentText n.exponent exponent ∧
    text = (if n.negative then ['-'] else []) ++ (n.whole ++ (fraction ++ exponent))

theorem isDigits_toDigits (n : Nat) : IsDigits (Nat.toDigits 10 n) :=
  ⟨Nat.toDigits_ne_nil, fun _ hc => Text.isDigit_of_mem_toDigits hc⟩

theorem IsDigits.begins {digits : List Char} (h : IsDigits digits) :
    ∃ c more, digits = c :: more ∧ c.isDigit = true :=
  Text.exists_digit_cons h.1 h.2

theorem ne_of_isDigit {c d : Char} (hc : c.isDigit = true) (hd : d.isDigit = false) : c ≠ d := by
  rintro rfl
  cases hc.symm.trans hd

/-- What may follow the whole part or the fraction of a number, in place of the part itself: none of
its characters. -/
def PartEnds (rest : List Char) : Prop := ∀ c ∈ rest.head?, c.isDigit = false ∧ c ≠ '.'

theorem PartEnds.noDigitNext {rest : List Char} (h : PartEnds rest) : Text.NoDigitNext rest :=
  fun c hc => (h c hc).1

theorem Ends.partEnds {rest : List Char} (h : Ends rest) : PartEnds rest := by
  intro c hc
  refine ⟨h.noDigitNext c hc, ?_⟩
  rintro rfl
  rcases h '.' hc with hspace | hmark | hmark | hmark
  · cases hspace
  all_goals exact absurd hmark (by decide)

theorem ExponentText.partEnds {e : Option (Bool × List Char)} {text rest : List Char}
    (h : ExponentText e text) (hrest : Ends rest) : PartEnds (text ++ rest) := by
  cases h with
  | absent => exact hrest.partEnds
  | power hletter _ _ =>
    intro c hc
    cases hc
    rcases hletter with rfl | rfl
    · exact ⟨rfl, by decide⟩
    · exact ⟨rfl, by decide⟩

theorem FractionText.noDigitNext {f : Option (List Char)} {text rest : List Char}
    (h : FractionText f text) (hrest : PartEnds rest) : Text.NoDigitNext (text ++ rest) := by
  cases h with
  | absent => exact hrest.noDigitNext
  | places _ => exact .cons (by decide) _

theorem exponentPart_text (cut : ReadError) {e : Option (Bool × List Char)} {text rest : List Char}
    (h : ExponentText e text) (hrest : Ends rest) :
    exponentPart cut (text ++ rest) = .ok (e, rest) := by
  unfold exponentPart
  cases h with
  | absent =>
    have hletter : take? (fun c => c = 'e' || c = 'E') rest = .ok (none, rest) := by
      refine take?_none (hrest.not_accepted ?_ rfl rfl rfl)
      intro c hc
      rcases isSpace_cases hc with rfl | rfl | rfl | rfl <;> rfl
    rw [List.nil_append, bind_of_ok hletter]
    rfl
  | @power letter sign digits hletter hsign hdigits =>
    have htake : take? (fun c => c = 'e' || c = 'E') (letter :: (sign ++ digits ++ rest)) =
        .ok (some letter, sign ++ digits ++ rest) := by
      apply take?_some
      rcases hletter with rfl | rfl <;> rfl
    have hread := digits_append cut hdigits.1 hdigits.2 hrest.noDigitNext
    rw [List.cons_append, bind_of_ok htake, if_pos Option.isSome_some, List.append_assoc]
    rcases hsign with rfl | rfl | rfl
    · obtain ⟨c, more, hmore, hc⟩ := hdigits.begins
      have hnone : take? (fun c => c = '+' || c = '-') (digits ++ rest) =
          .ok (none, digits ++ rest) := by
        apply take?_none
        rw [hmore]
        intro d hd
        cases hd
        simp [ne_of_isDigit hc (d := '+') rfl, ne_of_isDigit hc (d := '-') rfl]
      rw [List.nil_append, bind_of_ok hnone, bind_of_ok hread]
      rfl
    · have hplus : take? (fun c => c = '+' || c = '-') ('+' :: (digits ++ rest)) =
          .ok (some '+', digits ++ rest) := take?_some rfl _
      rw [List.singleton_append, bind_of_ok hplus, bind_of_ok hread]
      rfl
    · have hminus : take? (fun c => c = '+' || c = '-') ('-' :: (digits ++ rest)) =
          .ok (some '-', digits ++ rest) := take?_some rfl _
      rw [List.singleton_append, bind_of_ok hminus, bind_of_ok hread]
      rfl

theorem fractionPart_text (cut : ReadError) {f : Option (List Char)} {text rest : List Char}
    (h : FractionText f text) (hrest : PartEnds rest) :
    fractionPart cut (text ++ rest) = .ok (f, rest) := by
  unfold fractionPart
  cases h with
  | absent =>
    have hpoint : take? (· = '.') rest = .ok (none, rest) :=
      take?_none fun c hc => decide_eq_false (hrest c hc).2
    rw [List.nil_append, bind_of_ok hpoint]
    rfl
  | @places digits hdigits =>
    have hpoint : take? (· = '.') ('.' :: (digits ++ rest)) = .ok (some '.', digits ++ rest) :=
      take?_some rfl _
    rw [List.cons_append, bind_of_ok hpoint, if_pos Option.isSome_some]
    exact map_of_ok (digits_append cut hdigits.1 hdigits.2 hrest.noDigitNext) some

theorem wholePart_digits (cut : ReadError) {digits rest : List Char} (h : IsDigits digits)
    (hzero : digits.head? = some '0' → digits = ['0']) (hrest : Text.NoDigitNext rest) :
    wholePart cut (digits ++ rest) = .ok (digits, rest) := by
  have hok : ¬ (digits.head? = some '0' ∧ digits ≠ ['0']) := fun ⟨hhead, hne⟩ => hne (hzero hhead)
  unfold wholePart
  rw [bind_of_ok (digits_append cut h.1 h.2 hrest), if_neg hok]
  rfl

/-- A number is read part by part, however it is written. -/
theorem numberText_spelled (cut : ReadError) {n : NumberText} {text rest : List Char}
    (h : n.Spelled text) (hrest : Ends rest) : numberText cut (text ++ rest) = .ok (n, rest) := by
  obtain ⟨negative, whole, fraction, exponent⟩ := n
  obtain ⟨fractionText, exponentText, hwhole, hzero, hfraction, hexponent, rfl⟩ := h
  have hends := hexponent.partEnds hrest
  have hparts : ∀ sign : Option Char,
      (do
        let whole ← wholePart cut
        let fraction ← fractionPart cut
        let exponent ← exponentPart cut
        return ⟨sign.isSome, whole, fraction, exponent⟩ : Reader NumberText)
        (whole ++ (fractionText ++ (exponentText ++ rest))) =
          .ok (⟨sign.isSome, whole, fraction, exponent⟩, rest) := by
    intro sign
    rw [bind_of_ok (wholePart_digits cut hwhole hzero (hfraction.noDigitNext hends)),
      bind_of_ok (fractionPart_text cut hfraction hends),
      bind_of_ok (exponentPart_text cut hexponent hrest)]
    rfl
  simp only [List.append_assoc]
  unfold numberText
  cases negative with
  | true =>
    rw [if_pos rfl, List.singleton_append, bind_of_ok (take?_some (by decide) _)]
    exact hparts (some '-')
  | false =>
    obtain ⟨c, more, rfl, hc⟩ : ∃ c more, whole = c :: more ∧ c.isDigit = true := hwhole.begins
    have hminus : ∀ d ∈ (c :: more ++ (fractionText ++ (exponentText ++ rest))).head?,
        decide (d = '-') = false := by
      intro d hd
      cases hd
      exact decide_eq_false (ne_of_isDigit hc rfl)
    rw [if_neg Bool.false_ne_true, List.nil_append, bind_of_ok (take?_none hminus)]
    exact hparts none

theorem spelled_intText (n : Int) :
    NumberText.Spelled ⟨decide (n < 0), Nat.toDigits 10 n.natAbs, none, none⟩ (intText n) := by
  refine ⟨[], [], isDigits_toDigits _, ?_, .absent, .absent, ?_⟩
  · intro hhead
    rcases Nat.eq_zero_or_pos n.natAbs with hzero | hpos
    · rw [hzero]
      rfl
    · exact absurd hhead (Text.head_toDigits_ne_zero hpos)
  · rw [intText_eq, List.append_nil, List.append_nil]
    by_cases hneg : n < 0
    · rw [if_pos hneg, decide_eq_true hneg]
      rfl
    · rw [if_neg hneg, decide_eq_false hneg]
      rfl

/-! ## Value -/

theorem whole?_toDigits {n : Int} (h : IsWord n) :
    (NumberText.mk (decide (n < 0)) (Nat.toDigits 10 n.natAbs) none none).whole? = some n := by
  obtain ⟨hlow, hhigh⟩ := h
  have hlow' : -9223372036854775808 ≤ n := hlow
  have hhigh' : n < 18446744073709551616 := hhigh
  simp only [NumberText.whole?, Text.decimalValue_toDigits, Option.isSome_none, Bool.or_self,
    Bool.false_eq_true, if_false]
  by_cases hneg : n < 0
  · have hfits : 0 < n.natAbs ∧ n.natAbs ≤ Nat.pow 2 63 := by
      show 0 < n.natAbs ∧ n.natAbs ≤ 9223372036854775808
      omega
    rw [decide_eq_true hneg, if_pos rfl, if_pos hfits, Option.some.injEq]
    omega
  · have hfits : n.natAbs < Nat.pow 2 64 := by
      show n.natAbs < 18446744073709551616
      omega
    rw [decide_eq_false hneg, if_neg Bool.false_ne_true, if_pos hfits, Option.some.injEq]
    omega

theorem number_spelled {n : NumberText} {text : List Char} {v : Number} (h : n.Spelled text)
    (hv : n.value? = some v) : Reads number text v := by
  intro rest hrest
  unfold number
  rw [bind_of_ok (numberText_spelled .truncated h hrest), hv]
  rfl

theorem number_reads {n : Int} (h : IsWord n) : Reads number (intText n) (.whole n) :=
  number_spelled (spelled_intText n) (by rw [NumberText.value?, whole?_toDigits h])

/-- The first character says that a number follows. -/
theorem spelled_begins {n : NumberText} {text : List Char} (h : n.Spelled text) :
    ∃ c more, text = c :: more ∧ isNumberStart c = true := by
  obtain ⟨fraction, exponent, hwhole, -, -, -, rfl⟩ := h
  obtain ⟨c, more, hmore, hc⟩ := hwhole.begins
  rw [hmore]
  cases n.negative with
  | true => exact ⟨'-', _, rfl, rfl⟩
  | false =>
    refine ⟨c, _, rfl, ?_⟩
    rw [isNumberStart, hc, Bool.or_true]

/-- A number begins like no other value. -/
theorem ne_of_isNumberStart {c d : Char} (hc : isNumberStart c = true)
    (hd : isNumberStart d = false) : c ≠ d := by
  rintro rfl
  cases hc.symm.trans hd

theorem not_isSpace_of_isNumberStart {c : Char} (hc : isNumberStart c = true) : isSpace c = false := by
  apply Bool.eq_false_iff.2
  intro hspace
  rcases isSpace_cases hspace with rfl | rfl | rfl | rfl <;> cases hc

theorem numberFor_spelled (expected : String) {n : NumberText} {text : List Char} {v : Number}
    (h : n.Spelled text) (hv : n.value? = some v) : ReadsValue (numberFor expected) text v := by
  intro gap hgap rest hrest
  have hread := number_spelled h hv rest hrest
  obtain ⟨c, more, rfl, hc⟩ := spelled_begins h
  rw [List.cons_append] at hread
  rw [List.append_assoc, List.cons_append]
  unfold numberFor
  rw [bind_of_ok (start_gap hgap (not_isSpace_of_isNumberStart hc) _), if_pos hc, hread]

theorem numberFor_reads (expected : String) {n : Int} (h : IsWord n) :
    ReadsValue (numberFor expected) (intText n) (.whole n) :=
  numberFor_spelled expected (spelled_intText n) (by rw [NumberText.value?, whole?_toDigits h])

theorem intText_start (n : Int) :
    ∃ c more, intText n = c :: more ∧ isNumberStart c = true ∧ isSpace c = false := by
  obtain ⟨c, more, htext, hc⟩ := spelled_begins (spelled_intText n)
  exact ⟨c, more, htext, hc, not_isSpace_of_isNumberStart hc⟩

theorem integerWith_reads {α : Type} (expected : String) {accept : Int → Option α} {n : Int} {a : α}
    (h : IsWord n) (ha : accept n = some a) :
    ReadsValue (integerWith expected accept) (intText n) a := by
  intro gap hgap rest hrest
  unfold integerWith
  rw [bind_of_ok (numberFor_reads expected h gap hgap rest hrest)]
  simp only [ha]
  rfl

theorem floating_spelled (f : FloatFormat) (expected : String) {n : NumberText} {text : List Char}
    {v : Number} (h : n.Spelled text) (hv : n.value? = some v) :
    ReadsValue (floating f expected) text (v.toFloating f) := by
  intro gap hgap rest hrest
  unfold floating
  rw [bind_of_ok (numberFor_spelled expected h hv gap hgap rest hrest)]
  rfl

end Json
end CheckedSelect
