import CheckedSelect.Proofs.Text.Digits
import CheckedSelect.Timestamp

/-!
# CheckedSelect.Proofs.Timestamp

A timestamp is read from its own text, whatever its year and its second are.

* `part?_padded`, `mark?_cons`: the parts that all timestamps have.
* `year?_yearText`: years with and without a sign.
* `fraction?_fractionText`: the places of a second, as many as are written.
* `make?_shown`: the second as it is shown, which is 60 in a leap second.
* `ofText?_text`: the round trip.
-/

namespace CheckedSelect
namespace Timestamp

/-! ## Parts -/

theorem bind_of_eq_some {α β : Type} {x : Option α} {a : α} (h : x = some a) (f : α → Option β) :
    (x >>= f) = f a := by
  rw [h]
  rfl

theorem isBlank_of_isDigit {c : Char} (h : c.isDigit = true) : Text.isBlank c = false := by
  have hrange : 48 ≤ c.toNat ∧ c.toNat ≤ 57 := by
    simpa [Char.isDigit, UInt32.le_iff_toNat_le] using h
  simp [Text.isBlank, Text.blankRanges]
  omega

theorem skipBlanks_cons {c : Char} (h : Text.isBlank c = false) (rest : List Char) :
    skipBlanks (c :: rest) = c :: rest := by
  have hc : ¬ Text.isBlank c = true := by simp [h]
  exact List.dropWhile_cons_of_neg hc

theorem skipBlanks_digits {digits : List Char} (hne : digits ≠ [])
    (h : ∀ c ∈ digits, c.isDigit = true) (rest : List Char) :
    skipBlanks (digits ++ rest) = digits ++ rest := by
  cases digits with
  | nil => exact absurd rfl hne
  | cons c digits => exact skipBlanks_cons (isBlank_of_isDigit (h c List.mem_cons_self)) _

theorem skipBlanks_padded (width n : Nat) (rest : List Char) :
    skipBlanks (Text.padded 10 width n ++ rest) = Text.padded 10 width n ++ rest :=
  skipBlanks_digits (Text.padded_ne_nil 10 width n) (fun _ hc => Text.isDigit_of_mem_padded hc) rest

theorem part?_padded {n : Nat} (h : n < 100) {rest : List Char} (hrest : Text.NoDigitNext rest) :
    part? 2 (Text.padded 10 2 n ++ rest) = some (n, rest) := by
  have hlength : (Text.padded 10 2 n).length = 2 := Text.length_padded (by decide) (by decide) h
  rw [part?, skipBlanks_padded]
  exact Text.number?_padded (by omega) hrest

theorem mark?_cons {c : Char} (h : Text.isBlank c = false) (rest : List Char) :
    mark? c (c :: rest) = some rest := by
  unfold mark?
  rw [skipBlanks_cons h]
  exact if_pos rfl

/-! ## Years -/

/-- Without a sign a year has its four digits and no more. -/
theorem year?_digits {year : Nat} (h : year < 10000) {rest : List Char}
    (hrest : Text.NoDigitNext rest) :
    year? (Text.padded 10 4 year ++ rest) = some ((year : Int), rest) := by
  have hlength : (Text.padded 10 4 year).length = 4 := Text.length_padded (by decide) (by decide) h
  have hnumber : Text.number? 4 (Text.padded 10 4 year ++ rest) = some (year, rest) :=
    Text.number?_padded (Nat.le_of_eq hlength) hrest
  obtain ⟨c, digits, hdigits, hc⟩ := Text.padded_eq_cons 4 year
  unfold year?
  rw [skipBlanks_padded]
  split
  · next heq =>
    rw [hdigits] at heq
    cases heq
    cases hc
  · next heq =>
    rw [hdigits] at heq
    cases heq
    cases hc
  · rw [hnumber]
    rfl

theorem number?_signed (year : Nat) {rest : List Char} (hrest : Text.NoDigitNext rest) :
    Text.number? (Text.padded 10 4 year ++ rest).length (Text.padded 10 4 year ++ rest) =
      some (year, rest) := by
  refine Text.number?_padded ?_ hrest
  rw [List.length_append]
  omega

theorem year?_yearText (year : Int) {rest : List Char} (hrest : Text.NoDigitNext rest) :
    year? (Date.yearText year ++ rest) = some (year, rest) := by
  unfold Date.yearText
  by_cases hneg : year < 0
  · rw [if_pos hneg, List.cons_append, year?, skipBlanks_cons (by decide)]
    show (Text.number? _ _).map _ = _
    rw [number?_signed year.natAbs hrest, Option.map_some, Option.some.injEq, Prod.mk.injEq]
    exact ⟨by omega, rfl⟩
  · rw [if_neg hneg]
    by_cases hlong : 9999 < year
    · rw [if_pos hlong, List.cons_append, year?, skipBlanks_cons (by decide)]
      show (Text.number? _ _).map _ = _
      rw [number?_signed year.natAbs hrest, Option.map_some, Option.some.injEq, Prod.mk.injEq]
      exact ⟨by omega, rfl⟩
    · rw [if_neg hlong, year?_digits (by omega) hrest, Option.some.injEq, Prod.mk.injEq]
      exact ⟨by omega, rfl⟩

/-! ## Seconds -/

/-- So many places are read as they are written, and stand for so many nanoseconds. -/
theorem fraction?_places {places n : Nat} (hpos : 0 < places) (hplaces : places ≤ 9)
    (h : n < 10 ^ places) :
    fraction? ('.' :: Text.padded 10 places n) = some (n * 10 ^ (9 - places), []) := by
  have hlength : (Text.padded 10 places n).length = places := Text.length_padded (by decide) hpos h
  have hrun : Text.digitRun 9 (Text.padded 10 places n ++ []) = (Text.padded 10 places n, []) :=
    Text.digitRun_of_digits (fun _ hc => Text.isDigit_of_mem_padded hc) (by omega) .nil
  rw [List.append_nil] at hrun
  simp only [fraction?, hrun]
  split
  · next heq => exact absurd (Prod.mk.inj heq).1 (Text.padded_ne_nil 10 places n)
  · next heq =>
    obtain ⟨rfl, rfl⟩ := Prod.mk.inj heq
    rw [Text.decimalValue_padded, hlength]
    rfl

theorem fraction?_fractionText {n : Nat} (h : n < 1000000000) :
    fraction? (ClockTime.fractionText n) = some (n, []) := by
  unfold ClockTime.fractionText
  split
  · next hzero => rw [hzero]; rfl
  · split
    · rw [fraction?_places (by decide) (by decide) (by omega), Option.some.injEq, Prod.mk.injEq]
      exact ⟨by omega, rfl⟩
    · split
      · rw [fraction?_places (by decide) (by decide) (by omega), Option.some.injEq, Prod.mk.injEq]
        exact ⟨by omega, rfl⟩
      · rw [fraction?_places (by decide) (by decide) (by omega), Option.some.injEq, Prod.mk.injEq]
        exact ⟨by omega, rfl⟩

theorem noDigitNext_fractionText (n : Nat) : Text.NoDigitNext (ClockTime.fractionText n) := by
  unfold ClockTime.fractionText
  split
  · exact .nil
  · split
    · exact .cons (by decide) _
    · split
      · exact .cons (by decide) _
      · exact .cons (by decide) _

/-- The second that is shown and the places after it. -/
def shown (t : ClockTime) : Nat × Nat :=
  (t.second + t.nanosecond / nanosPerSecond, t.nanosecond % nanosPerSecond)

theorem make?_self (t : ClockTime) :
    ClockTime.make? t.hour t.minute t.second t.nanosecond = some t := by
  unfold ClockTime.make?
  rw [dif_pos ⟨t.hour_lt, t.minute_lt, t.second_lt, t.nanosecond_lt⟩]

/-- Only a leap second is shown as 60, and it is the 59th with a second more in its places. -/
theorem make?_shown (t : ClockTime) :
    (if (shown t).1 = 60 then ClockTime.make? t.hour t.minute 59 (nanosPerSecond + (shown t).2)
      else ClockTime.make? t.hour t.minute (shown t).1 (shown t).2) = some t := by
  have hself := make?_self t
  have hsecond := t.second_lt
  unfold shown nanosPerSecond
  rcases t.nanosecond_lt with h | ⟨h59, h⟩
  · have hdiv : t.nanosecond / 1000000000 = 0 := Nat.div_eq_of_lt h
    have hmod : t.nanosecond % 1000000000 = t.nanosecond := Nat.mod_eq_of_lt h
    rw [hdiv, hmod, Nat.add_zero, if_neg (by omega)]
    exact hself
  · by_cases hleap : t.nanosecond < 1000000000
    · rw [Nat.div_eq_of_lt hleap, Nat.mod_eq_of_lt hleap, Nat.add_zero, if_neg (by omega)]
      exact hself
    · have hdiv : t.nanosecond / 1000000000 = 1 := by omega
      have hmod : 1000000000 + t.nanosecond % 1000000000 = t.nanosecond := by omega
      rw [hdiv, h59, if_pos (by omega), hmod, ← h59]
      exact hself

/-! ## Whole timestamps -/

theorem date_make?_self (d : Date) : Date.make? d.year d.month d.day = some d := by
  unfold Date.make?
  rw [dif_pos ⟨d.year_mem, d.month_mem, d.day_mem⟩]

theorem daysInMonth_le (year : Int) (month : Nat) : daysInMonth year month ≤ 31 := by
  unfold daysInMonth
  split
  · split <;> omega
  · omega
  · omega
  · omega
  · omega
  · omega

theorem shown_second_lt (t : ClockTime) : (shown t).1 < 100 := by
  have hsecond := t.second_lt
  have hnanosecond := t.nanosecond_lt
  simp only [shown, nanosPerSecond]
  omega

theorem text_eq (t : Timestamp) : t.text 'T' =
    Date.yearText t.date.year ++ '-' :: (Text.padded 10 2 t.date.month ++
      '-' :: (Text.padded 10 2 t.date.day ++ 'T' :: (Text.padded 10 2 t.time.hour ++
        ':' :: (Text.padded 10 2 t.time.minute ++ ':' :: (Text.padded 10 2 (shown t.time).1 ++
          ClockTime.fractionText (shown t.time).2))))) := by
  simp [Timestamp.text, Date.text, ClockTime.text, shown]

theorem ofText?_text (t : Timestamp) : ofText? (t.text 'T') = some t := by
  rw [text_eq]
  obtain ⟨d, c⟩ := t
  have hmonth : d.month < 100 := Nat.lt_of_le_of_lt d.month_mem.2 (by decide)
  have hday : d.day < 100 :=
    Nat.lt_of_le_of_lt (Nat.le_trans d.day_mem.2 (daysInMonth_le d.year d.month)) (by decide)
  have hhour : c.hour < 100 := Nat.lt_trans c.hour_lt (by decide)
  have hminute : c.minute < 100 := Nat.lt_trans c.minute_lt (by decide)
  have hshown := shown_second_lt c
  have hplaces : (shown c).2 < 1000000000 := Nat.mod_lt _ (by decide)
  have hend : (guard ((skipBlanks []).isEmpty = true) : Option Unit) = some () := rfl
  have hclock := make?_shown c
  unfold ofText?
  refine (bind_of_eq_some (year?_yearText d.year (.cons (by decide) _)) _).trans ?_
  refine (bind_of_eq_some (mark?_cons (by decide) _) _).trans ?_
  refine (bind_of_eq_some (part?_padded hmonth (.cons (by decide) _)) _).trans ?_
  refine (bind_of_eq_some (mark?_cons (by decide) _) _).trans ?_
  refine (bind_of_eq_some (part?_padded hday (.cons (by decide) _)) _).trans ?_
  refine (bind_of_eq_some (mark?_cons (by decide) _) _).trans ?_
  refine (bind_of_eq_some (part?_padded hhour (.cons (by decide) _)) _).trans ?_
  refine (bind_of_eq_some (mark?_cons (by decide) _) _).trans ?_
  refine (bind_of_eq_some (part?_padded hminute (.cons (by decide) _)) _).trans ?_
  refine (bind_of_eq_some (mark?_cons (by decide) _) _).trans ?_
  refine (bind_of_eq_some (part?_padded hshown (noDigitNext_fractionText _)) _).trans ?_
  refine (bind_of_eq_some (fraction?_fractionText hplaces) _).trans ?_
  refine (bind_of_eq_some hend _).trans ?_
  refine (bind_of_eq_some (date_make?_self d) _).trans ?_
  by_cases hleap : (shown c).1 = 60
  · rw [if_pos hleap] at hclock
    exact (if_pos hleap).trans (bind_of_eq_some hclock _)
  · rw [if_neg hleap] at hclock
    exact (if_neg hleap).trans (bind_of_eq_some hclock _)

end Timestamp
end CheckedSelect
