import CheckedSelect.Json.Quoted

/-!
# CheckedSelect.Proofs.Json.Quoted

Reading a string undoes writing it, whatever its characters are.

* `stringBody_escapeChar`: one written character is read as itself.
* `stringBody_escaped`: a whole written string, up to its closing quote.
-/

namespace CheckedSelect
namespace Json

/-! ## One character read -/

theorem stringBody_quote (rest : List Char) : stringBody ('"' :: rest) = .ok ([], rest) := by
  rw [stringBody, if_pos rfl]

/-- What is read after a character, with the character in front of it. -/
def withFirst (c : Char) (read : Except ReadError (List Char × List Char)) :
    Except ReadError (List Char × List Char) :=
  read.map fun (body, after) => (c :: body, after)

theorem stringBody_plain {c : Char} (hquote : c ≠ '"') (hslash : c ≠ '\\') (hspace : ¬ c < ' ')
    (rest : List Char) : stringBody (c :: rest) = withFirst c (stringBody rest) := by
  rw [stringBody, if_neg hquote, if_neg hslash, if_neg hspace]
  cases stringBody rest with
  | error e => rfl
  | ok p => rfl

theorem stringBody_escape {d : Char} {text rest : List Char} (he : escape text = .ok (d, rest)) :
    stringBody ('\\' :: text) = withFirst d (stringBody rest) := by
  rw [stringBody, if_neg (by decide), if_pos rfl]
  split
  · next heq => rw [he] at heq; cases heq
  · next heq =>
    rw [he] at heq
    cases heq
    cases stringBody rest with
    | error e => rfl
    | ok p => rfl

theorem stringBody_escape_error {text : List Char} {e : ReadError} (he : escape text = .error e) :
    stringBody ('\\' :: text) = .error e := by
  rw [stringBody, if_neg (by decide), if_pos rfl]
  split
  · next heq => rw [he] at heq; cases heq; rfl
  · next heq => rw [he] at heq; cases heq

theorem escape_short {c d : Char} {rest : List Char} (hd : shortEscape? c = some d) :
    escape (c :: rest) = .ok (d, rest) := by
  have hu : c ≠ 'u' := by
    intro h
    rw [h] at hd
    cases hd
  rw [escape, if_neg hu, hd]

/-! ## Four digits -/

theorem hexUnit_of_hex? {a b c d : Char} {n : Nat} (h : Text.hex? [a, b, c, d] = some n)
    (rest : List Char) : hexUnit (a :: b :: c :: d :: rest) = .ok (n, rest) := by
  rw [hexUnit, h]

/-- The characters below space have two zeros and two digits. -/
theorem hexUnit_padded {n : Nat} (h : n < 32) (rest : List Char) :
    hexUnit (Text.padded 16 4 n ++ rest) = .ok (n, rest) := by
  have hdigits : ∀ n < 32, ∃ a b c d, Text.padded 16 4 n = [a, b, c, d] ∧
      Text.hex? [a, b, c, d] = some n := by
    intro n h
    refine ⟨'0', '0', Nat.digitChar (n / 16), Nat.digitChar (n % 16), ?_⟩
    revert n
    decide
  obtain ⟨a, b, c, d, hpadded, hvalue⟩ := hdigits n h
  rw [hpadded]
  exact hexUnit_of_hex? hvalue rest

theorem escape_padded {c : Char} (h : c < ' ') (rest : List Char) :
    escape ('u' :: Text.padded 16 4 c.toNat ++ rest) = .ok (c, rest) := by
  have hlt : c.toNat < 32 := h
  have htrailing : isTrailingSurrogate c.toNat = false := by
    rw [isTrailingSurrogate, Bool.and_eq_false_iff]
    left
    simp
    omega
  have hleading : isLeadingSurrogate c.toNat = false := by
    rw [isLeadingSurrogate, Bool.and_eq_false_iff]
    left
    simp
    omega
  rw [List.cons_append, escape, if_pos rfl, unicodeEscape, hexUnit_padded hlt]
  show (if isTrailingSurrogate c.toNat = true then _ else _) = _
  rw [htrailing, hleading]
  show Except.ok (Char.ofNat c.toNat, rest) = _
  rw [Char.ofNat_toNat]

/-! ## Written strings -/

theorem stringBody_escapeChar (c : Char) (rest : List Char) :
    stringBody (escapeChar c ++ rest) = withFirst c (stringBody rest) := by
  unfold escapeChar
  split
  · exact stringBody_escape (escape_short rfl)
  · exact stringBody_escape (escape_short rfl)
  · exact stringBody_escape (escape_short rfl)
  · exact stringBody_escape (escape_short rfl)
  · exact stringBody_escape (escape_short rfl)
  · exact stringBody_escape (escape_short rfl)
  · exact stringBody_escape (escape_short rfl)
  · next hquote hslash _ _ _ _ _ =>
    by_cases hspace : c < ' '
    · rw [if_pos hspace]
      exact stringBody_escape (escape_padded hspace rest)
    · rw [if_neg hspace]
      exact stringBody_plain hquote hslash hspace rest

/-- A written string is read whole, and what follows its closing quote is left. -/
theorem stringBody_escaped (text after : List Char) :
    stringBody (text.flatMap escapeChar ++ '"' :: after) = .ok (text, after) := by
  induction text with
  | nil => exact stringBody_quote after
  | cons c rest ih =>
    rw [List.flatMap_cons, List.append_assoc, stringBody_escapeChar, ih]
    rfl

end Json
end CheckedSelect
