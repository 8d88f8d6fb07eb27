import CheckedSelect.Proofs.Text.Digits
import CheckedSelect.Uuid

/-!
# CheckedSelect.Proofs.Uuid

An identifier is read from its own text.

* `ungrouped?_grouped`: taking out the hyphens undoes putting them in.
* `ofText?_text`: the round trip.
-/

namespace CheckedSelect
namespace Uuid

theorem splitAt_append {n : Nat} {a : List Char} (h : a.length = n) (b : List Char) :
    (a ++ b).splitAt n = (a, b) := by
  rw [List.splitAt_eq, List.take_left' h, List.drop_left' h]

section

variable {a b c d : List Char} (ha : a.length = 8) (hb : b.length = 4) (hc : c.length = 4)
  (hd : d.length = 4)
include ha hb hc hd

theorem grouped_append (e : List Char) :
    grouped (a ++ (b ++ (c ++ (d ++ e)))) =
      a ++ '-' :: (b ++ '-' :: (c ++ '-' :: (d ++ '-' :: e))) := by
  simp only [grouped, splitAt_append ha, splitAt_append hb, splitAt_append hc, splitAt_append hd,
    List.append_assoc, List.cons_append]

theorem ungrouped?_append (e : List Char) :
    ungrouped? (a ++ '-' :: (b ++ '-' :: (c ++ '-' :: (d ++ '-' :: e)))) =
      some (a ++ (b ++ (c ++ (d ++ e)))) := by
  simp only [ungrouped?, splitAt_append ha, splitAt_append hb, splitAt_append hc,
    splitAt_append hd, List.append_assoc]

end

theorem exists_groups {digits : List Char} (h : digits.length = 32) :
    ∃ a b c d e : List Char, digits = a ++ (b ++ (c ++ (d ++ e))) ∧
      a.length = 8 ∧ b.length = 4 ∧ c.length = 4 ∧ d.length = 4 := by
  refine ⟨digits.take 8, (digits.drop 8).take 4, ((digits.drop 8).drop 4).take 4,
    (((digits.drop 8).drop 4).drop 4).take 4, (((digits.drop 8).drop 4).drop 4).drop 4, ?_, ?_⟩
  · simp only [List.take_append_drop]
  · simp only [List.length_take, List.length_drop]
    omega

theorem ungrouped?_grouped {digits : List Char} (h : digits.length = 32) :
    ungrouped? (grouped digits) = some digits := by
  obtain ⟨a, b, c, d, e, rfl, ha, hb, hc, hd⟩ := exists_groups h
  rw [grouped_append ha hb hc hd, ungrouped?_append ha hb hc hd]

theorem length_grouped {digits : List Char} (h : digits.length = 32) :
    (grouped digits).length = 36 := by
  obtain ⟨a, b, c, d, e, rfl, ha, hb, hc, hd⟩ := exists_groups h
  rw [grouped_append ha hb hc hd]
  simp only [List.length_append, List.length_cons] at h ⊢
  omega

theorem length_digits (u : Uuid) : u.digits.length = 32 :=
  Text.length_padded (by decide) (by decide) u.bits.isLt

/-- The digits of an identifier name all of its bits. -/
theorem ofDigits?_digits (u : Uuid) : ofDigits? u.digits = some u := by
  rw [ofDigits?, if_pos u.length_digits, digits, Text.hex?_padded, Option.map_some,
    BitVec.ofNat_toNat, BitVec.setWidth_eq]

theorem ofText?_text (u : Uuid) : ofText? u.text = some u := by
  have hlength : u.text.length = 36 := length_grouped u.length_digits
  unfold ofText?
  rw [hlength]
  show (ungrouped? u.text).bind ofDigits? = some u
  rw [text, ungrouped?_grouped u.length_digits]
  exact u.ofDigits?_digits

end Uuid
end CheckedSelect
