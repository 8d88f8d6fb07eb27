import CheckedSelect.Proofs.Text.SelfDelimiting
import CheckedSelect.Value

/-!
# CheckedSelect.Proofs.Value.Literal

Literals as they stand in a statement.

* `isBareChar`, `isBareChar_of_mem_body`: what a literal without quotes is made of. A blank, a
  quote or a backtick is never among it.
* `scanQuoted`, `scan`: how a reader of statements takes a string off the front of a text. A quote
  that comes twice is a character of the string, and one that comes once ends it.
* `scanQuoted_delimited`: a text written between quotes is scanned as itself.
* `literal_selfDelimiting`: with string literals quoted, a literal ends where it ends, whatever is
  in its quotes.
-/

namespace CheckedSelect
namespace Value

/-! ## Literals without quotes -/

/-- The characters of numbers, of truth values and of the null. -/
def isBareChar (c : Char) : Bool := c.isAlphanum || c == '-' || c == '.'

theorem isBareChar_of_isDigit {c : Char} (h : c.isDigit = true) : isBareChar c = true := by
  simp [isBareChar, Char.isAlphanum, h]

theorem isBareChar_of_mem_toDigits {c : Char} {n : Nat} (h : c ∈ Nat.toDigits 10 n) :
    isBareChar c = true :=
  isBareChar_of_isDigit (Nat.isDigit_of_mem_toDigits (by decide) (by decide) h)

theorem isBareChar_of_mem_zeros {c : Char} {n : Nat} (h : c ∈ List.replicate n '0') :
    isBareChar c = true := by
  rw [List.eq_of_mem_replicate h]
  decide

theorem isBareChar_of_mem_padded {c : Char} {width n : Nat} (h : c ∈ Text.padded 10 width n) :
    isBareChar c = true := by
  rcases List.mem_append.1 h with h | h
  · exact isBareChar_of_mem_zeros h
  · exact isBareChar_of_mem_toDigits h

theorem isBareChar_of_mem_boolText {c : Char} {b : Bool} (h : c ∈ Json.boolText b) :
    isBareChar c = true := by
  have hall : (Json.boolText b).all isBareChar = true := by
    cases b with
    | true => rfl
    | false => rfl
  exact List.all_eq_true.1 hall c h

theorem isBareChar_of_mem_intText {c : Char} {n : Int} (h : c ∈ Json.intText n) :
    isBareChar c = true := by
  rw [Json.intText, Int.toString_eq_repr, Int.repr_eq_if] at h
  split at h
  · rw [Nat.toList_repr] at h
    exact isBareChar_of_mem_toDigits h
  · rw [String.toList_append, Nat.toList_repr] at h
    rcases List.mem_append.1 h with h | h
    · rw [List.mem_singleton.1 h]; decide
    · exact isBareChar_of_mem_toDigits h

/-- A sign in front changes nothing. -/
theorem isBareChar_of_mem_signed {negative : Bool} {body : List Char} {c : Char}
    (hbody : ∀ c ∈ body, isBareChar c = true) (h : c ∈ if negative then '-' :: body else body) :
    isBareChar c = true := by
  split at h
  · rcases List.mem_cons.1 h with rfl | h
    · decide
    · exact hbody c h
  · exact hbody c h

/-- Nor does a point among the digits. -/
theorem isBareChar_of_mem_pointed {digits : List Char} {k : Nat} {c : Char}
    (hdigits : ∀ c ∈ digits, isBareChar c = true)
    (h : c ∈ digits.take k ++ '.' :: digits.drop k) : isBareChar c = true := by
  rcases List.mem_append.1 h with h | h
  · exact hdigits c (List.mem_of_mem_take h)
  · rcases List.mem_cons.1 h with rfl | h
    · decide
    · exact hdigits c (List.mem_of_mem_drop h)

theorem isBareChar_of_mem_positional {c : Char} {d : DecimalDigits}
    (h : c ∈ d.positional []) : isBareChar c = true := by
  unfold DecimalDigits.positional at h
  split at h
  · rcases List.mem_append.1 h with h | h
    · rcases List.mem_append.1 h with h | h
      · exact isBareChar_of_mem_toDigits h
      · exact isBareChar_of_mem_zeros h
    · cases h
  · refine isBareChar_of_mem_pointed (fun c hc => ?_) h
    rcases List.mem_append.1 hc with hc | hc
    · exact isBareChar_of_mem_zeros hc
    · exact isBareChar_of_mem_toDigits hc

theorem isBareChar_of_mem_float {f : FloatFormat} {c : Char} {x : Floating f}
    (h : c ∈ FloatLayout.sql.write x) : isBareChar c = true := by
  unfold FloatLayout.write at h
  split at h
  · -- Every number is written positionally.
    refine isBareChar_of_mem_signed (fun c hc => ?_) h
    exact isBareChar_of_mem_positional hc
  · have hnull : FloatLayout.sql.nonFinite.all isBareChar = true := rfl
    exact List.all_eq_true.1 hnull c h

theorem isBareChar_of_mem_decimal {c : Char} {d : Decimal} (h : c ∈ d.text) :
    isBareChar c = true := by
  unfold Decimal.text at h
  refine isBareChar_of_mem_signed (fun c hc => ?_) h
  split at hc
  · exact isBareChar_of_mem_padded (List.mem_of_mem_take hc)
  · exact isBareChar_of_mem_pointed (fun c hc => isBareChar_of_mem_padded hc) hc

theorem isBareChar_of_mem_body {v : Value} (hv : v.isStringLike = false) {c : Char}
    (h : c ∈ v.body) : isBareChar c = true := by
  cases v with
  | null =>
    have hnull : Value.null.body.all isBareChar = true := rfl
    exact List.all_eq_true.1 hnull c h
  | bool b => exact isBareChar_of_mem_boolText h
  | int32 n => exact isBareChar_of_mem_intText h
  | int64 n => exact isBareChar_of_mem_intText h
  | float32 x => exact isBareChar_of_mem_float h
  | float64 x => exact isBareChar_of_mem_float h
  | decimal d => exact isBareChar_of_mem_decimal h
  | text s => cases hv
  | json j => cases hv
  | uuid u => cases hv
  | timestamp t => cases hv

theorem not_mem_body {v : Value} (hv : v.isStringLike = false) {c : Char}
    (hc : isBareChar c = false) : c ∉ v.body := by
  intro h
  rw [isBareChar_of_mem_body hv h] at hc
  cases hc

/-! ## Literals between quotes -/

/-- A quote inside the text comes twice, so a single one ends it. -/
def doubled (text : List Char) : List Char :=
  text.flatMap fun c => if c = '\'' then ['\'', '\''] else [c]

theorem delimited_eq (text : List Char) : delimited text = '\'' :: (doubled text ++ ['\'']) := rfl

theorem doubled_quote (text : List Char) : doubled ('\'' :: text) = '\'' :: '\'' :: doubled text :=
  rfl

theorem doubled_cons {c : Char} (hc : c ≠ '\'') (text : List Char) :
    doubled (c :: text) = c :: doubled text := by
  simp [doubled, hc]

/-! ## Scanning -/

/-- The string up to the quote that ends it, and the text after that quote. -/
def scanRest : List Char → Option (List Char × List Char)
  | [] => none
  | '\'' :: '\'' :: more => (scanRest more).map fun (body, rest) => ('\'' :: body, rest)
  | '\'' :: rest => some ([], rest)
  | c :: more => (scanRest more).map fun (body, rest) => (c :: body, rest)

def scanQuoted : List Char → Option (List Char × List Char)
  | '\'' :: more => scanRest more
  | _ => none

def scan (sql : String) : Option (String × String) :=
  (scanQuoted sql.toList).map fun (body, rest) => (String.ofList body, String.ofList rest)

theorem scanRest_end {rest : List Char} (h : rest.head? ≠ some '\'') :
    scanRest ('\'' :: rest) = some ([], rest) := by
  cases rest with
  | nil => rfl
  | cons c rest =>
    have hc : c ≠ '\'' := by simpa using h
    simp [scanRest, hc]

theorem scanRest_twice (text : List Char) :
    scanRest ('\'' :: '\'' :: text) =
      (scanRest text).map fun (body, rest) => ('\'' :: body, rest) := rfl

theorem scanRest_plain {c : Char} (hc : c ≠ '\'') (text : List Char) :
    scanRest (c :: text) = (scanRest text).map fun (body, rest) => (c :: body, rest) := by
  simp [scanRest, hc]

/-- By the characters of the text. Only after the last of them can the end be taken for one half of
a quote that comes twice, and what follows prevents that. -/
theorem scanRest_doubled (text : List Char) {rest : List Char} (h : rest.head? ≠ some '\'') :
    scanRest (doubled text ++ '\'' :: rest) = some (text, rest) := by
  induction text with
  | nil => exact scanRest_end h
  | cons c text ih =>
    by_cases hc : c = '\''
    · subst hc
      rw [doubled_quote, List.cons_append, List.cons_append, scanRest_twice, ih]
      rfl
    · rw [doubled_cons hc, List.cons_append, scanRest_plain hc, ih]
      rfl

theorem scanQuoted_delimited (text : List Char) {rest : List Char} (h : rest.head? ≠ some '\'') :
    scanQuoted (delimited text ++ rest) = some (text, rest) := by
  rw [delimited_eq, List.cons_append, List.append_assoc]
  exact scanRest_doubled text h

/-- What comes next begins with a blank, and that is no quote. -/
theorem head_ne_quote {x : List Char} (hx : Text.Next [] x) : x.head? ≠ some '\'' := by
  intro h
  obtain ⟨rest, rfl⟩ := List.head?_eq_some_iff.1 h
  exact absurd hx.head_eq (by decide)

/-- Both texts are scanned off the front of the same one. -/
theorem doubled_inj {s t x y : List Char} (hx : Text.Next [] x) (hy : Text.Next [] y)
    (h : doubled s ++ '\'' :: x = doubled t ++ '\'' :: y) : s = t ∧ x = y := by
  have hscan := scanRest_doubled s (head_ne_quote hx)
  rw [h, scanRest_doubled t (head_ne_quote hy)] at hscan
  cases hscan
  exact ⟨rfl, rfl⟩

/-! ## All literals -/

theorem toList_literal_of_stringLike {v : Value} (hv : v.isStringLike = true) :
    (v.literal true).toList = '\'' :: (doubled v.body ++ ['\'']) := by
  simp [literal, hv, delimited_eq]

theorem toList_literal_of_bare {v : Value} (hv : v.isStringLike = false) :
    (v.literal true).toList = v.body := by
  simp [literal, hv]

/-- A literal without quotes begins with one of its own characters, or is empty before a blank. -/
theorem literal_bare_ne_cons {v : Value} {mark : Char} {x y : List Char}
    (hv : v.isStringLike = false) (hbare : isBareChar mark = false) (hblank : mark ≠ ' ')
    (hx : Text.Next [] x) : (v.literal true).toList ++ x ≠ mark :: y := by
  intro h
  rw [toList_literal_of_bare hv] at h
  cases hb : v.body with
  | nil =>
    rw [hb, List.nil_append] at h
    rw [h] at hx
    exact hblank hx.head_eq
  | cons c cs =>
    rw [hb] at h
    obtain ⟨rfl, -⟩ := List.cons.inj h
    exact not_mem_body hv hbare (hb ▸ List.mem_cons_self)

/-- No literal begins like a name between backticks. -/
theorem literal_ne_backtick {v : Value} {x y : List Char} (hx : Text.Next [] x) :
    (v.literal true).toList ++ x ≠ '`' :: y := by
  cases hv : v.isStringLike with
  | true =>
    intro h
    rw [toList_literal_of_stringLike hv] at h
    exact absurd (List.cons.inj h).1 (by decide)
  | false => exact literal_bare_ne_cons hv (by decide) (by decide) hx

theorem literal_bare_ne_quoted {v w : Value} {x y : List Char} (hv : v.isStringLike = false)
    (hw : w.isStringLike = true) (hx : Text.Next [] x) :
    (v.literal true).toList ++ x ≠ (w.literal true).toList ++ y := by
  rw [toList_literal_of_stringLike hw]
  exact literal_bare_ne_cons hv (by decide) (by decide) hx

theorem literal_selfDelimiting :
    Text.SelfDelimiting (literal true) (literal true) (Text.Next []) := by
  intro v w x y hx hy h
  cases hv : v.isStringLike with
  | true =>
    cases hw : w.isStringLike with
    | true =>
      rw [toList_literal_of_stringLike hv, toList_literal_of_stringLike hw] at h
      simp only [List.cons_append, List.append_assoc, List.nil_append] at h
      obtain ⟨hbody, hxy⟩ := doubled_inj hx hy (List.cons.inj h).2
      exact ⟨by simp [literal, hv, hw, hbody], hxy⟩
    | false => exact absurd h.symm (literal_bare_ne_quoted hw hv hy)
  | false =>
    cases hw : w.isStringLike with
    | true => exact absurd h (literal_bare_ne_quoted hv hw hx)
    | false =>
      rw [toList_literal_of_bare hv, toList_literal_of_bare hw] at h
      obtain ⟨hbody, hxy⟩ := Text.append_inj_of_no_blank
        (not_mem_body hv (by decide)) (not_mem_body hw (by decide)) hx hy h
      exact ⟨by simp [literal, hv, hw, hbody], hxy⟩

end Value
end CheckedSelect
