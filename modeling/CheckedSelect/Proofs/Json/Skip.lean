import CheckedSelect.Json.Skip
import CheckedSelect.Proofs.Json.Grammar
import CheckedSelect.Proofs.Json.RoundTrip

/-!
# CheckedSelect.Proofs.Json.Skip

A value that nobody asked for is stepped over whole, and nothing after it is.

* `skipNested_takes`: what the skipping reader does with each part of the grammar, as long as it may
  open as many brackets as the text has characters.
* `skipValue_reads`: every well-formed value is skipped, up to what stands after it.
-/

namespace CheckedSelect
namespace Json

/-! ## How a value begins -/

theorem ValueText.begins {text : List Char} (h : ValueText text) : Begins text := by
  cases h with
  | null => exact ⟨'n', _, rfl, rfl, by decide⟩
  | bool b =>
    cases b with
    | true => exact ⟨'t', _, rfl, rfl, by decide⟩
    | false => exact ⟨'f', _, rfl, rfl, by decide⟩
  | string _ => exact ⟨'"', _, rfl, rfl, by decide⟩
  | number hnumber =>
    obtain ⟨c, more, rfl, hc⟩ := spelled_begins hnumber
    exact ⟨c, more, rfl, not_isSpace_of_isNumberStart hc, ne_of_isNumberStart hc rfl⟩
  | array _ => exact ⟨'[', _, rfl, rfl, by decide⟩
  | object _ => exact ⟨'{', _, rfl, rfl, by decide⟩

/-! ## Skipping -/

/-- What skipping does with a part that it meets, when so many brackets may still be opened. -/
def SkippedAs (bound : Nat) : Part → List Char → Prop
  | .value, text => ReadsValue (skipNested bound) text ()
  | .elements first, text => Elements (fun _ => skipNested bound) first () text ()
  | .members first, text =>
    Members skipStringRest (fun _ _ => do colon; skipNested bound) first () text ()

theorem skipNested_null (bound : Nat) : ReadsValue (skipNested (bound + 1)) "null".toList () := by
  intro gap hgap rest _
  rw [List.append_assoc]
  show skipNested (bound + 1) (gap ++ 'n' :: ("ull".toList ++ rest)) = _
  rw [skipNested, bind_of_ok (start_gap hgap (by decide) _), if_pos rfl]
  exact word_append "null".toList rest

theorem skipNested_bool (bound : Nat) (b : Bool) :
    ReadsValue (skipNested (bound + 1)) (boolText b) () := by
  intro gap hgap rest _
  rw [List.append_assoc, skipNested]
  cases b with
  | true =>
    have hstart : start (gap ++ (boolText true ++ rest)) = .ok ('t', boolText true ++ rest) :=
      start_gap hgap (by decide) _
    rw [bind_of_ok hstart, if_neg (by decide), if_pos rfl]
    exact word_append "true".toList rest
  | false =>
    have hstart : start (gap ++ (boolText false ++ rest)) = .ok ('f', boolText false ++ rest) :=
      start_gap hgap (by decide) _
    rw [bind_of_ok hstart, if_neg (by decide), if_neg (by decide), if_pos rfl]
    exact word_append "false".toList rest

theorem skipNested_string (bound : Nat) {text : List Char} (h : StringText text) :
    ReadsValue (skipNested (bound + 1)) ('"' :: (text ++ ['"'])) () := by
  intro gap hgap rest _
  simp only [List.append_assoc, List.cons_append, List.nil_append]
  rw [skipNested, bind_of_ok (start_gap hgap (by decide) _), if_neg (by decide),
    if_neg (by decide), if_neg (by decide), if_pos rfl, bind_of_ok (advance_cons _ _),
    skipStringRest_text h]

theorem skipNested_number (bound : Nat) {n : NumberText} {text : List Char} (h : n.Spelled text) :
    ReadsValue (skipNested (bound + 1)) text () := by
  intro gap hgap rest hrest
  have hread := numberText_spelled .malformed h hrest
  obtain ⟨c, more, rfl, hc⟩ := spelled_begins h
  have hspace := not_isSpace_of_isNumberStart hc
  rw [List.cons_append] at hread
  rw [List.append_assoc]
  show skipNested (bound + 1) (gap ++ c :: (more ++ rest)) = _
  rw [skipNested, bind_of_ok (start_gap hgap hspace _), if_neg (ne_of_isNumberStart hc rfl),
    if_neg (ne_of_isNumberStart hc rfl), if_neg (ne_of_isNumberStart hc rfl),
    if_neg (ne_of_isNumberStart hc rfl), if_neg (ne_of_isNumberStart hc rfl),
    if_neg (ne_of_isNumberStart hc rfl), if_pos hc, bind_of_ok hread]
  rfl

theorem skipNested_array {bound : Nat} {text : List Char}
    (h : Elements (fun _ => skipNested bound) true () text ()) :
    ReadsValue (skipNested (bound + 1)) ('[' :: text) () := by
  intro gap hgap rest _
  rw [List.append_assoc, List.cons_append, skipNested, bind_of_ok (start_gap hgap (by decide) _),
    if_neg (by decide), if_neg (by decide), if_neg (by decide), if_neg (by decide), if_pos rfl,
    bind_of_ok (advance_cons _ _)]
  exact h.elements_eq rest

theorem skipNested_object {bound : Nat} {text : List Char}
    (h : Members skipStringRest (fun _ _ => do colon; skipNested bound) true () text ()) :
    ReadsValue (skipNested (bound + 1)) ('{' :: text) () := by
  intro gap hgap rest _
  rw [List.append_assoc, List.cons_append, skipNested, bind_of_ok (start_gap hgap (by decide) _),
    if_neg (by decide), if_neg (by decide), if_neg (by decide), if_neg (by decide),
    if_neg (by decide), if_pos rfl, bind_of_ok (advance_cons _ _)]
  exact h.members_eq rest

/-- Every bracket of a part is one of its characters, so a bound above their number is enough. -/
theorem skipNested_takes {part : Part} {text : List Char} (h : Grammar part text) {bound : Nat}
    (hbound : text.length < bound) : SkippedAs bound part text := by
  -- By the derivation; the bound goes down by one at each bracket and stays within an array or object.
  induction h generalizing bound with
  | null =>
    obtain ⟨bound, rfl⟩ := Nat.exists_eq_succ_of_ne_zero (Nat.ne_zero_of_lt hbound)
    exact skipNested_null bound
  | bool b =>
    obtain ⟨bound, rfl⟩ := Nat.exists_eq_succ_of_ne_zero (Nat.ne_zero_of_lt hbound)
    exact skipNested_bool bound b
  | string hstring =>
    obtain ⟨bound, rfl⟩ := Nat.exists_eq_succ_of_ne_zero (Nat.ne_zero_of_lt hbound)
    exact skipNested_string bound hstring
  | number hnumber =>
    obtain ⟨bound, rfl⟩ := Nat.exists_eq_succ_of_ne_zero (Nat.ne_zero_of_lt hbound)
    exact skipNested_number bound hnumber
  | array _ ih =>
    obtain ⟨bound, rfl⟩ := Nat.exists_eq_succ_of_ne_zero (Nat.ne_zero_of_lt hbound)
    exact skipNested_array (ih (Nat.lt_of_succ_lt_succ hbound))
  | object _ ih =>
    obtain ⟨bound, rfl⟩ := Nat.exists_eq_succ_of_ne_zero (Nat.ne_zero_of_lt hbound)
    exact skipNested_object (ih (Nat.lt_of_succ_lt_succ hbound))
  | lastElement hgap => exact .close hgap
  | @element first lead body more hlead hbody _ ihbody ihmore =>
    simp only [List.length_append] at hbound
    have hread : ReadsValue (skipNested bound) body () := ihbody (by omega)
    exact .element hlead (ValueText.begins hbody) (hread [] Gap.nil) (ihmore (by omega))
  | lastMember hgap => exact .close hgap
  | @member first lead name before after body more hlead hname hbefore hafter _ _ ihbody ihmore =>
    simp only [List.length_append, List.length_cons] at hbound
    have hread : ReadsValue (skipNested bound) body () := ihbody (by omega)
    have hmore : Members skipStringRest (fun _ _ => do colon; skipNested bound) false () more () :=
      ihmore (by omega)
    have hbody : Reads (do colon; skipNested bound) (before ++ ':' :: (after ++ body)) () :=
      colon_then_reads hread hbefore hafter
    exact .written hlead (skipStringRest_text hname) hbody hmore

theorem skipValue_reads {text : List Char} (h : ValueText text) : ReadsValue skipValue text () := by
  intro gap hgap rest hrest
  have hbound : text.length < (gap ++ text ++ rest).length + 1 := by
    simp only [List.length_append]
    omega
  exact skipNested_takes h hbound gap hgap rest hrest

end Json
end CheckedSelect
