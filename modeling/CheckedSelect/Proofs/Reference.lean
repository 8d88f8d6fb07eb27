import CheckedSelect.Rejection

/-!
# CheckedSelect.Proofs.Reference

Reading a reference undoes writing it, for the references whose text can be split again.

* `IsReadable`: the first name is not empty and has no dot, the second is not empty.
* `parse_eq_ok_iff`: a text is read as a reference exactly when it is the text of that reference
  and the reference is readable.
-/

namespace CheckedSelect
namespace Reference

/-- The names that survive being written as one text. -/
def IsReadable (r : Reference) : Prop :=
  r.table ≠ "" ∧ '.' ∉ r.table.toList ∧ r.column ≠ ""

theorem splitDot_eq_some_iff {text before after : List Char} :
    splitDot text = some (before, after) ↔ text = before ++ '.' :: after ∧ '.' ∉ before := by
  induction text generalizing before with
  | nil => simp [splitDot]
  | cons c rest ih =>
    rw [splitDot]
    by_cases hc : c = '.'
    · rw [if_pos hc]
      constructor
      · intro h
        cases h
        simp [hc]
      · intro h
        obtain ⟨h, hdot⟩ := h
        cases before with
        | nil => cases h; rfl
        | cons d before =>
          cases h
          exact absurd (hc ▸ List.mem_cons_self) hdot
    · rw [if_neg hc]
      cases before with
      | nil => simp [hc]
      | cons d before =>
        constructor
        · intro h
          obtain ⟨⟨b, a⟩, hs, he⟩ := Option.map_eq_some_iff.1 h
          cases he
          obtain ⟨hrest, hdot⟩ := ih.1 hs
          exact ⟨by rw [hrest]; rfl, by simp [Ne.symm hc, hdot]⟩
        · intro h
          obtain ⟨h, hdot⟩ := h
          cases h
          rw [ih.2 ⟨rfl, fun hm => hdot (List.mem_cons_of_mem _ hm)⟩]
          rfl

theorem ofList_cons_ne_empty (c : Char) (cs : List Char) : String.ofList (c :: cs) ≠ "" := by
  intro h
  have := congrArg String.toList h
  simp at this

theorem toList_eq_cons_of_ne_empty {s : String} (h : s ≠ "") : ∃ c cs, s.toList = c :: cs := by
  cases hs : s.toList with
  | nil => exact absurd (String.toList_inj.1 (by rw [hs]; rfl)) h
  | cons c cs => exact ⟨c, cs, rfl⟩

theorem toList_text (r : Reference) : r.text.toList = r.table.toList ++ '.' :: r.column.toList := by
  simp [text]

theorem ofText?_eq_some_iff {raw : String} {r : Reference} :
    ofText? raw = some r ↔ raw = r.text ∧ r.IsReadable := by
  constructor
  · intro h
    unfold ofText? at h
    split at h
    · rename_i t table c column hs
      cases h
      obtain ⟨hraw, hdot⟩ := splitDot_eq_some_iff.1 hs
      refine ⟨String.toList_inj.1 ?_, ofList_cons_ne_empty _ _, ?_, ofList_cons_ne_empty _ _⟩
      · rw [hraw, toList_text]
        simp
      · simpa using hdot
    · cases h
  · intro h
    obtain ⟨rfl, htable, hdot, hcolumn⟩ := h
    obtain ⟨t, table, ht⟩ := toList_eq_cons_of_ne_empty htable
    obtain ⟨c, column, hc⟩ := toList_eq_cons_of_ne_empty hcolumn
    have hs : splitDot r.text.toList = some (t :: table, c :: column) := by
      rw [toList_text, ht, hc]
      exact splitDot_eq_some_iff.2 ⟨rfl, ht ▸ hdot⟩
    have hr : (⟨String.ofList (t :: table), String.ofList (c :: column)⟩ : Reference) = r := by
      rw [← ht, ← hc, String.ofList_toList, String.ofList_toList]
    rw [ofText?, hs]
    exact congrArg some hr

/-- Neither a name with a dot nor an empty name can be reached by a text: the split is unique. -/
theorem parse_eq_ok_iff {raw : String} {r : Reference} :
    parse raw = .ok r ↔ raw = r.text ∧ r.IsReadable := by
  rw [← ofText?_eq_some_iff, parse]
  cases ofText? raw with
  | none => simp
  | some r' => simp

theorem parse_text {r : Reference} (h : r.IsReadable) : parse r.text = .ok r :=
  parse_eq_ok_iff.2 ⟨rfl, h⟩

end Reference
end CheckedSelect
