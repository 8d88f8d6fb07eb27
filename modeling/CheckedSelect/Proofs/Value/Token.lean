import CheckedSelect.Proofs.Value.Literal

/-!
# CheckedSelect.Proofs.Value.Token

A literal is a single token of a statement, whatever the value is.

* `body_ne_nil`: a literal without quotes has at least one character.
* `literal_is_token`: both kinds of literals, with what may follow a quoted one.
-/

namespace CheckedSelect
namespace Value

/-! ## Literals without quotes -/

theorem boolText_ne_nil (b : Bool) : Json.boolText b ≠ [] := by
  cases b with
  | true => exact List.cons_ne_nil _ _
  | false => exact List.cons_ne_nil _ _

theorem intText_ne_nil (n : Int) : Json.intText n ≠ [] := by
  rw [Json.intText, Int.toString_eq_repr, Int.repr_eq_if]
  split
  · rw [Nat.toList_repr]
    exact Nat.toDigits_ne_nil
  · rw [String.toList_append]
    exact List.append_ne_nil_of_left_ne_nil (List.cons_ne_nil _ _) _

theorem signed_ne_nil {negative : Bool} {body : List Char} (h : body ≠ []) :
    (if negative then '-' :: body else body) ≠ [] := by
  split
  · exact List.cons_ne_nil _ _
  · exact h

theorem positional_ne_nil (d : DecimalDigits) : d.positional [] ≠ [] := by
  unfold DecimalDigits.positional
  split
  · rw [List.append_nil]
    exact List.append_ne_nil_of_left_ne_nil Nat.toDigits_ne_nil _
  · exact List.append_ne_nil_of_right_ne_nil _ (List.cons_ne_nil _ _)

theorem float_ne_nil {f : FloatFormat} (x : Floating f) : FloatLayout.sql.write x ≠ [] := by
  unfold FloatLayout.write
  split
  · exact signed_ne_nil (positional_ne_nil _)
  · exact List.cons_ne_nil _ _

/-- Without places there is at least one digit, and with places there is a point. -/
theorem decimal_ne_nil (d : Decimal) : d.text ≠ [] := by
  unfold Decimal.text
  refine signed_ne_nil ?_
  split
  · next hscale =>
    rw [hscale, Nat.sub_zero, List.take_length]
    exact List.append_ne_nil_of_right_ne_nil _ Nat.toDigits_ne_nil
  · exact List.append_ne_nil_of_right_ne_nil _ (List.cons_ne_nil _ _)

theorem body_ne_nil {v : Value} (hv : v.isStringLike = false) : v.body ≠ [] := by
  cases v with
  | null => exact List.cons_ne_nil _ _
  | bool b => exact boolText_ne_nil b
  | int32 n => exact intText_ne_nil n.toInt
  | int64 n => exact intText_ne_nil n.toInt
  | float32 x => exact float_ne_nil x
  | float64 x => exact float_ne_nil x
  | decimal d => exact decimal_ne_nil d
  | text s => cases hv
  | json j => cases hv
  | uuid u => cases hv
  | timestamp t => cases hv

/-! ## All literals -/

/-- The kinds of values that go between quotes. -/
def quotedKinds : List (Option ValueKind) := [some .text, some .json, some .uuid, some .timestamp]

theorem isStringLike_iff_mem_quotedKinds (v : Value) :
    v.isStringLike = true ↔ v.kind? ∈ quotedKinds := by
  cases v <;> simp [isStringLike, kind?, quotedKinds]

/-- A string, a document, an identifier or a timestamp between quotes is scanned as the text that it
has without them, up to exactly where it ends. Every other literal is the same with and without
quoting, and is a word of letters, digits, points and minus signs. -/
theorem literal_is_token (v : Value) :
    (v.kind? ∈ quotedKinds → ∀ rest : String, rest.toList.head? ≠ some '\'' →
      scan (v.literal true ++ rest) = some (v.literal false, rest)) ∧
    (v.kind? ∉ quotedKinds →
      v.literal true = v.literal false ∧ v.literal true ≠ "" ∧
      ∀ c ∈ (v.literal true).toList, c.isAlphanum = true ∨ c = '.' ∨ c = '-') := by
  rw [← isStringLike_iff_mem_quotedKinds]
  constructor
  · intro hv rest hrest
    have hquoted : (v.literal true).toList = delimited v.body := toList_literal_of_stringLike hv
    rw [scan, String.toList_append, hquoted, scanQuoted_delimited v.body hrest]
    simp [literal]
  · intro hv
    have hbare : v.isStringLike = false := by simpa using hv
    refine ⟨by simp [literal, hbare], ?_, ?_⟩
    · intro hempty
      have hbody := toList_literal_of_bare hbare
      rw [hempty] at hbody
      exact body_ne_nil hbare hbody.symm
    · intro c hc
      rw [toList_literal_of_bare hbare] at hc
      have hchar := isBareChar_of_mem_body hbare hc
      simp only [isBareChar, Bool.or_eq_true, beq_iff_eq] at hchar
      rcases hchar with (h | h) | h
      · exact .inl h
      · exact .inr (.inr h)
      · exact .inr (.inl h)

/-- A string that begins and ends with quotes and has two side by side, before more of a
statement, and an infinity, which has no digits. -/
theorem quotes_everywhere_scanned :
    scan ((Value.text "'O''Brien'").literal true ++ " OR 1 = 1") =
      some ("'O''Brien'", " OR 1 = 1") ∧
    (Value.float64 (Floating.ofBits .binary64 0x7FF0000000000000)).literal true ≠ "" :=
  ⟨(literal_is_token (.text "'O''Brien'")).1 (by decide) " OR 1 = 1" (by decide),
    ((literal_is_token (.float64 (Floating.ofBits .binary64 0x7FF0000000000000))).2
      (by decide)).2.1⟩

end Value
end CheckedSelect
