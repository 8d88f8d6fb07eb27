import CheckedSelect.Proofs.Json.Number
import CheckedSelect.Proofs.Json.Quoted

/-!
# CheckedSelect.Proofs.Json.Grammar

The texts of documents, said without any reader.

* `Spells`: the ways to write the characters of a string, escapes included. `StringText`: what may
  stand between quotes, whether or not it is the text of some characters.
* `Grammar`: values of any depth, and what stands between their brackets.
* `stringBody_spells`, `skipString_text`: strings are read and stepped over as they are written.
-/

namespace CheckedSelect
namespace Json

/-! ## Strings -/

/-- A character that is written as itself. -/
def IsPlain (c : Char) : Prop := c ≠ '"' ∧ c ≠ '\\' ∧ ¬ c < ' '

instance (c : Char) : Decidable (IsPlain c) := inferInstanceAs (Decidable (_ ∧ _))

/-- The letters of the short escapes and the characters they are for. -/
def escapes : List (Char × Char) :=
  [('"', '"'), ('\\', '\\'), ('/', '/'), ('b', '\x08'), ('f', '\x0c'), ('n', '\n'), ('r', '\r'),
    ('t', '\t')]

/-- Four hexadecimal digits of either case, and their value. -/
def IsUnit (digits : List Char) (n : Nat) : Prop :=
  digits.length = 4 ∧ Text.hex? digits = some n

/-- The characters of a string, and a text for them between the quotes. A character beyond the basic
plane may be given by the two halves of a surrogate pair; a half alone is no character. -/
inductive Spells : List Char → List Char → Prop where
  | nil : Spells [] []
  | plain {c : Char} {s t : List Char} : IsPlain c → Spells s t → Spells (c :: s) (c :: t)
  | short {c d : Char} {s t : List Char} :
      (c, d) ∈ escapes → Spells s t → Spells (d :: s) ('\\' :: c :: t)
  | unit {digits : List Char} {d : Char} {s t : List Char} :
      IsUnit digits d.toNat → Spells s t → Spells (d :: s) ('\\' :: 'u' :: (digits ++ t))
  | pair {high low : List Char} {m n : Nat} {d : Char} {s t : List Char} :
      IsUnit high m → IsUnit low n → 0xD800 ≤ m ∧ m ≤ 0xDBFF → 0xDC00 ≤ n ∧ n ≤ 0xDFFF →
      d.toNat = 0x10000 + (m - 0xD800) * 0x400 + (n - 0xDC00) → Spells s t →
      Spells (d :: s) ('\\' :: 'u' :: (high ++ '\\' :: 'u' :: (low ++ t)))

/-- What may stand between quotes: each escape has the right form. -/
inductive StringText : List Char → Prop where
  | nil : StringText []
  | plain {c : Char} {t : List Char} : IsPlain c → StringText t → StringText (c :: t)
  | short {c d : Char} {t : List Char} :
      (c, d) ∈ escapes → StringText t → StringText ('\\' :: c :: t)
  | unit {digits : List Char} {n : Nat} {t : List Char} :
      IsUnit digits n → StringText t → StringText ('\\' :: 'u' :: (digits ++ t))

theorem Spells.plain_append {s : List Char} (h : ∀ c ∈ s, IsPlain c) {s' t : List Char}
    (ht : Spells s' t) : Spells (s ++ s') (s ++ t) := by
  induction s with
  | nil => exact ht
  | cons c s ih =>
    exact .plain (h c List.mem_cons_self) (ih fun d hd => h d (List.mem_cons_of_mem c hd))

/-- The text of some characters is in particular one that may stand between quotes. -/
theorem Spells.stringText {s t : List Char} (h : Spells s t) : StringText t := by
  induction h with
  | nil => exact .nil
  | plain hc _ ih => exact .plain hc ih
  | short hc _ ih => exact .short hc ih
  | unit hd _ ih => exact .unit hd ih
  | pair hhigh hlow _ _ _ _ ih => exact .unit hhigh (.unit hlow ih)

theorem shortEscape?_of_mem {c d : Char} (h : (c, d) ∈ escapes) : shortEscape? c = some d := by
  have htable : ∀ e ∈ escapes, shortEscape? e.1 = some e.2 := by decide
  exact htable _ h

theorem hexUnit_of_isUnit {digits : List Char} {n : Nat} (h : IsUnit digits n) (rest : List Char) :
    hexUnit (digits ++ rest) = .ok (n, rest) := by
  obtain ⟨hlength, hvalue⟩ := h
  match digits, hlength with
  | [a, b, c, d], _ => exact hexUnit_of_hex? hvalue rest

theorem toNat_range (c : Char) : c.toNat < 0xD800 ∨ (0xDFFF < c.toNat ∧ c.toNat < 0x110000) := c.valid

/-- No character is half of a pair. -/
theorem escape_unit {digits : List Char} {d : Char} (h : IsUnit digits d.toNat) (rest : List Char) :
    escape ('u' :: (digits ++ rest)) = .ok (d, rest) := by
  have hrange := toNat_range d
  have htrailing : isTrailingSurrogate d.toNat = false := by
    unfold isTrailingSurrogate
    simp only [Bool.and_eq_false_iff, decide_eq_false_iff_not]
    omega
  have hleading : isLeadingSurrogate d.toNat = false := by
    unfold isLeadingSurrogate
    simp only [Bool.and_eq_false_iff, decide_eq_false_iff_not]
    omega
  rw [escape, if_pos rfl, unicodeEscape, hexUnit_of_isUnit h]
  show (if isTrailingSurrogate d.toNat = true then _ else _) = _
  rw [htrailing, hleading]
  show Except.ok (Char.ofNat d.toNat, rest) = _
  rw [Char.ofNat_toNat]

theorem escape_pair {high low : List Char} {m n : Nat} {d : Char} (hhigh : IsUnit high m)
    (hlow : IsUnit low n) (hm : 0xD800 ≤ m ∧ m ≤ 0xDBFF) (hn : 0xDC00 ≤ n ∧ n ≤ 0xDFFF)
    (hd : d.toNat = 0x10000 + (m - 0xD800) * 0x400 + (n - 0xDC00)) (rest : List Char) :
    escape ('u' :: (high ++ '\\' :: 'u' :: (low ++ rest))) = .ok (d, rest) := by
  have hnot : isTrailingSurrogate m = false := by
    unfold isTrailingSurrogate
    simp only [Bool.and_eq_false_iff, decide_eq_false_iff_not]
    omega
  have hleading : isLeadingSurrogate m = true := by
    unfold isLeadingSurrogate
    simp only [Bool.and_eq_true, decide_eq_true_eq]
    omega
  have htrailing : isTrailingSurrogate n = true := by
    unfold isTrailingSurrogate
    simp only [Bool.and_eq_true, decide_eq_true_eq]
    omega
  have hsecond : trailingUnit ('\\' :: 'u' :: (low ++ rest)) = .ok (n, rest) := by
    rw [trailingUnit, if_pos ⟨rfl, rfl⟩, hexUnit_of_isUnit hlow]
    exact if_pos htrailing
  rw [escape, if_pos rfl, unicodeEscape, hexUnit_of_isUnit hhigh]
  show (if isTrailingSurrogate m = true then _ else _) = _
  rw [hnot, hleading, if_neg Bool.false_ne_true, if_pos rfl, hsecond]
  show Except.ok (pairedChar m n, rest) = _
  rw [pairedChar, ← hd, Char.ofNat_toNat]

/-- However a string is spelled, its characters are read. -/
theorem stringBody_spells {s t : List Char} (h : Spells s t) (rest : List Char) :
    stringBody (t ++ '"' :: rest) = .ok (s, rest) := by
  induction h with
  | nil => exact stringBody_quote rest
  | plain hc _ ih =>
    obtain ⟨hquote, hslash, hspace⟩ := hc
    rw [List.cons_append, stringBody_plain hquote hslash hspace, ih]
    rfl
  | short hc _ ih =>
    rw [List.cons_append, List.cons_append,
      stringBody_escape (escape_short (shortEscape?_of_mem hc)), ih]
    rfl
  | unit hd _ ih =>
    simp only [List.cons_append, List.append_assoc]
    rw [stringBody_escape (escape_unit hd _), ih]
    rfl
  | pair hhigh hlow hm hn hd _ ih =>
    simp only [List.cons_append, List.append_assoc]
    rw [stringBody_escape (escape_pair hhigh hlow hm hn hd _), ih]
    rfl

theorem stringRest_spells {name : String} {t : List Char} (h : Spells name.toList t)
    (rest : List Char) : stringRest (t ++ '"' :: rest) = .ok (name, rest) := by
  unfold stringRest
  rw [stringBody_spells h]
  exact congrArg (fun s => Except.ok (s, rest)) String.ofList_toList

theorem skipString_escape {text rest : List Char} (h : skipEscape text = .ok rest) :
    skipString ('\\' :: text) = skipString rest := by
  rw [skipString, if_neg (by decide), if_pos rfl]
  split
  · next heq => cases h.symm.trans heq
  · next heq =>
    cases h.symm.trans heq
    rfl

theorem skipEscape_short {c d : Char} (h : (c, d) ∈ escapes) (rest : List Char) :
    skipEscape (c :: rest) = .ok rest := by
  have hshort := shortEscape?_of_mem h
  have hu : c ≠ 'u' := by
    rintro rfl
    cases hshort
  rw [skipEscape, if_neg hu, hshort]
  rfl

theorem skipEscape_unit {digits : List Char} {n : Nat} (h : IsUnit digits n) (rest : List Char) :
    skipEscape ('u' :: (digits ++ rest)) = .ok rest := by
  rw [skipEscape, if_pos rfl, hexUnit_of_isUnit h]

theorem skipString_text {t : List Char} (h : StringText t) (rest : List Char) :
    skipString (t ++ '"' :: rest) = .ok rest := by
  induction h with
  | nil => rw [List.nil_append, skipString, if_pos rfl]
  | plain hc _ ih =>
    obtain ⟨hquote, hslash, hspace⟩ := hc
    rw [List.cons_append, skipString, if_neg hquote, if_neg hslash, if_neg hspace, ih]
  | short hc _ ih =>
    rw [List.cons_append, List.cons_append, skipString_escape (skipEscape_short hc _), ih]
  | unit hd _ ih =>
    simp only [List.cons_append, List.append_assoc]
    rw [skipString_escape (skipEscape_unit hd _), ih]

theorem skipStringRest_text {t : List Char} (h : StringText t) (rest : List Char) :
    skipStringRest (t ++ '"' :: rest) = .ok ((), rest) := by
  unfold skipStringRest
  rw [skipString_text h]

/-! ## Values -/

/-- What a text is: a value, or the rest of an array or object after its opening bracket or after one
of its items. -/
inductive Part where
  | value
  | elements (first : Bool)
  | members (first : Bool)

/-- The texts of each part, with any blanks between the tokens. Names may be repeated, and a string
may hold half of a surrogate pair. -/
inductive Grammar : Part → List Char → Prop where
  | null : Grammar .value "null".toList
  | bool (b : Bool) : Grammar .value (boolText b)
  | string {text : List Char} : StringText text → Grammar .value ('"' :: (text ++ ['"']))
  | number {n : NumberText} {text : List Char} : n.Spelled text → Grammar .value text
  | array {text : List Char} : Grammar (.elements true) text → Grammar .value ('[' :: text)
  | object {text : List Char} : Grammar (.members true) text → Grammar .value ('{' :: text)
  | lastElement {first : Bool} {gap : List Char} :
      Gap gap → Grammar (.elements first) (gap ++ [']'])
  | element {first : Bool} {lead body more : List Char} :
      Lead first lead → Grammar .value body → Grammar (.elements false) more →
      Grammar (.elements first) (lead ++ (body ++ more))
  | lastMember {first : Bool} {gap : List Char} :
      Gap gap → Grammar (.members first) (gap ++ ['}'])
  | member {first : Bool} {lead name before after body more : List Char} :
      Lead first lead → StringText name → Gap before → Gap after → Grammar .value body →
      Grammar (.members false) more →
      Grammar (.members first)
        (lead ++ '"' :: (name ++ '"' :: (before ++ ':' :: (after ++ (body ++ more)))))

/-- A well-formed value, of any depth. -/
def ValueText (text : List Char) : Prop := Grammar .value text

end Json
end CheckedSelect
