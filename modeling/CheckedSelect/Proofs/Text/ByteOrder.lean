import Mathlib.Data.List.Lex
import Mathlib.Data.UInt

/-!
# CheckedSelect.Proofs.Text.ByteOrder

Texts in the order of their UTF-8 bytes. A code point is written as a leading byte, which tells how
many bytes there are, and trailing bytes with six bits each, so that comparing bytes from the front
compares code points.

* `Ordered`: numbers that are written in their own order, whatever comes after them. A trailing
  byte with the lowest bits keeps this (`Ordered.trailing`).
* `utf8EncodeChar_append_lt`: the same of characters.
* `utf8_lt_iff`: texts have the order of their bytes, compared from the front.
-/

namespace CheckedSelect.Text

/-- The bytes of a text in UTF-8. -/
def utf8 (text : String) : List UInt8 := text.toUTF8.data.toList

/-! ## Numbers in bytes -/

/-- Numbers below the bound are written in their order, whatever comes after them. -/
def Ordered (bound : Nat) (write : Nat → List UInt8) : Prop :=
  ∀ v w, v < w → w < bound → ∀ x y, write v ++ x < write w ++ y

/-- A byte that begins a character, one of `count` such bytes. -/
def leading (first count v : Nat) : UInt8 := UInt8.ofNat (v % count + first)

/-- A byte inside a character, with the six lowest bits. -/
def trailing (v : Nat) : UInt8 := UInt8.ofNat (v % 64 + 128)

theorem ofNat_lt_ofNat {m n : Nat} (h : m < n) (hn : n < 256) : UInt8.ofNat m < UInt8.ofNat n := by
  rw [UInt8.lt_iff_toNat_lt, UInt8.toNat_ofNat_of_lt' (h.trans hn), UInt8.toNat_ofNat_of_lt' hn]
  exact h

theorem ordered_leading {first count : Nat} (h : first + count ≤ 256) :
    Ordered count fun v => [leading first count v] := by
  intro v w hvw hw x y
  have hlead : leading first count v < leading first count w := by
    rw [leading, leading, Nat.mod_eq_of_lt (hvw.trans hw), Nat.mod_eq_of_lt hw]
    exact ofNat_lt_ofNat (by omega) (by omega)
  exact List.cons_lt_cons_iff.2 (.inl hlead)

/-- Where the higher bits are the same the trailing byte decides. -/
theorem Ordered.trailing {bound : Nat} {write : Nat → List UInt8} (h : Ordered bound write) :
    Ordered (64 * bound) fun v => write (v / 64) ++ [trailing v] := by
  intro v w hvw hw x y
  rw [List.append_assoc, List.append_assoc]
  have hhigh : v / 64 < w / 64 ∨ v / 64 = w / 64 ∧ v % 64 < w % 64 := by omega
  rcases hhigh with hlt | ⟨heq, hlow⟩
  · exact h _ _ hlt (by omega) _ _
  · rw [heq]
    apply List.Lex.append_left
    exact List.cons_lt_cons_iff.2 (.inl (ofNat_lt_ofNat (by omega) (by omega)))

def twoBytes (v : Nat) : List UInt8 := [leading 192 32 (v / 64)] ++ [trailing v]

def threeBytes (v : Nat) : List UInt8 :=
  [leading 224 16 (v / 64 / 64)] ++ [trailing (v / 64)] ++ [trailing v]

def fourBytes (v : Nat) : List UInt8 :=
  [leading 240 8 (v / 64 / 64 / 64)] ++ [trailing (v / 64 / 64)] ++ [trailing (v / 64)] ++
    [trailing v]

theorem ordered_twoBytes : Ordered (64 * 32) twoBytes :=
  (ordered_leading (by decide)).trailing

theorem ordered_threeBytes : Ordered (64 * (64 * 16)) threeBytes :=
  (ordered_leading (by decide)).trailing.trailing

theorem ordered_fourBytes : Ordered (64 * (64 * (64 * 8))) fourBytes :=
  (ordered_leading (by decide)).trailing.trailing.trailing

/-! ## Characters -/

theorem utf8EncodeChar_eq (c : Char) :
    String.utf8EncodeChar c =
      if c.val.toNat < 128 then [leading 0 128 c.val.toNat]
      else if c.val.toNat < 2048 then twoBytes c.val.toNat
      else if c.val.toNat < 65536 then threeBytes c.val.toNat
      else fourBytes c.val.toNat := by
  simp only [String.utf8EncodeChar, twoBytes, threeBytes, fourBytes, leading, trailing,
    Nat.div_div_eq_div_mul, Nat.le_iff_lt_add_one]
  split
  · next h => rw [Nat.mod_eq_of_lt h, Nat.add_zero]
  · rfl

theorem toNat_lt_of_char (c : Char) : c.val.toNat < 64 * (64 * (64 * 8)) := by
  rcases c.valid with h | ⟨-, h⟩ <;> omega

/-- The bytes of a smaller character come first, whatever stands after the two. -/
theorem utf8EncodeChar_append_lt {c d : Char} (h : c < d) (x y : List UInt8) :
    String.utf8EncodeChar c ++ x < String.utf8EncodeChar d ++ y := by
  have hcd : c.val.toNat < d.val.toNat := h
  have hd := toNat_lt_of_char d
  rw [utf8EncodeChar_eq, utf8EncodeChar_eq]
  -- Characters of different lengths differ in their leading bytes, and the longer is the greater.
  have hlead : ∀ {m n : Nat} {xs ys : List UInt8}, m < n → n < 256 →
      UInt8.ofNat m :: xs < UInt8.ofNat n :: ys :=
    fun hmn hn => List.cons_lt_cons_iff.2 (.inl (ofNat_lt_ofNat hmn hn))
  split_ifs
  · exact ordered_leading (by decide) _ _ hcd (by omega) x y
  · exact hlead (by omega) (by omega)
  · exact hlead (by omega) (by omega)
  · exact hlead (by omega) (by omega)
  · omega
  · exact ordered_twoBytes _ _ hcd (by omega) x y
  · exact hlead (by omega) (by omega)
  · exact hlead (by omega) (by omega)
  · omega
  · omega
  · exact ordered_threeBytes _ _ hcd (by omega) x y
  · exact hlead (by omega) (by omega)
  · omega
  · omega
  · omega
  · exact ordered_fourBytes _ _ hcd hd x y

theorem utf8EncodeChar_ne_nil (c : Char) : String.utf8EncodeChar c ≠ [] := by
  rw [utf8EncodeChar_eq]
  split_ifs <;> exact List.cons_ne_nil _ _

/-! ## Texts -/

theorem utf8_eq_flatMap (text : String) :
    utf8 text = text.toList.flatMap String.utf8EncodeChar := by
  have htext : text.toByteArray = text.toList.utf8Encode := by
    rw [← String.toByteArray_ofList, String.ofList_toList]
  rw [utf8, String.toUTF8, htext, List.utf8Encode, List.data_toByteArray, List.toList_toArray]

theorem flatMap_utf8EncodeChar_lt {cs ds : List Char} (h : cs < ds) :
    cs.flatMap String.utf8EncodeChar < ds.flatMap String.utf8EncodeChar := by
  induction h with
  | @nil d ds =>
    rw [List.flatMap_cons, List.flatMap_nil]
    cases hd : String.utf8EncodeChar d with
    | nil => exact absurd hd (utf8EncodeChar_ne_nil d)
    | cons byte bytes => exact List.Lex.nil
  | rel hcd => exact utf8EncodeChar_append_lt hcd _ _
  | @cons c cs ds _ ih => exact List.Lex.append_left _ ih _

/-- The order of texts is the order of their bytes. -/
theorem utf8_lt_iff {a b : String} : utf8 a < utf8 b ↔ a < b := by
  have hmono : ∀ {a b : String}, a < b → utf8 a < utf8 b := by
    intro a b h
    rw [utf8_eq_flatMap, utf8_eq_flatMap]
    exact flatMap_utf8EncodeChar_lt (String.lt_iff.1 h)
  constructor
  · intro h
    rcases Std.lt_trichotomy a b with hab | rfl | hba
    · exact hab
    · exact absurd h (List.lt_irrefl _)
    · exact absurd (hmono hba) (List.lt_asymm h)
  · exact hmono

end CheckedSelect.Text
