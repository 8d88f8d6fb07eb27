import CheckedSelect.Text.Blank
import Mathlib.Data.List.DropRight

/-!
# CheckedSelect.Proofs.Text.Blank

Trimming a text, told by what is cut off and what is left.

* `WhiteSpace`: the characters with the property of that name, one by one.
* `BlankPadded core raw`: `raw` is `core` with white space at its two ends.
* `Bare`: a text that neither starts nor ends with white space.
* `trim_eq_iff`: trimming leaves the one bare text that the raw one is a padding of.
-/

namespace CheckedSelect
namespace Text

/-! ## White space -/

/-- The code points with the property `White_Space`. -/
def whiteSpace : List Nat :=
  [0x09, 0x0A, 0x0B, 0x0C, 0x0D, 0x20, 0x85, 0xA0, 0x1680, 0x2000, 0x2001, 0x2002, 0x2003, 0x2004,
    0x2005, 0x2006, 0x2007, 0x2008, 0x2009, 0x200A, 0x2028, 0x2029, 0x202F, 0x205F, 0x3000]

def WhiteSpace (c : Char) : Prop := c.toNat ∈ whiteSpace

instance (c : Char) : Decidable (WhiteSpace c) := inferInstanceAs (Decidable (_ ∈ _))

/-- The ranges of the table, written out, are these code points. -/
theorem isBlank_iff_whiteSpace (c : Char) : isBlank c = true ↔ WhiteSpace c := by
  have hpoints : blankRanges.flatMap (fun r => List.range' r.1 (r.2 + 1 - r.1)) =
      whiteSpace := by decide
  rw [isBlank, WhiteSpace, ← hpoints, List.any_eq_true, List.mem_flatMap]
  apply exists_congr
  intro r
  apply and_congr_right
  intro _
  simp only [Bool.and_eq_true, decide_eq_true_eq, List.mem_range'_1]
  omega

/-- White space only, or nothing at all. -/
def Blank (text : List Char) : Prop := ∀ c ∈ text, WhiteSpace c

/-- Nothing, or a text whose first and last characters are no white space. -/
structure Bare (text : List Char) : Prop where
  first : ∀ c ∈ text.head?, ¬ WhiteSpace c
  last : ∀ c ∈ text.getLast?, ¬ WhiteSpace c

theorem Blank.isBlank {text : List Char} (h : Blank text) : ∀ c ∈ text, isBlank c = true :=
  fun c hc => (isBlank_iff_whiteSpace c).2 (h c hc)

/-! ## What is cut off -/

theorem rdropWhile_cons {α : Type} (p : α → Bool) (a : α) (rest : List α) :
    (a :: rest).rdropWhile p =
      if rest.rdropWhile p = [] then [a].rdropWhile p else a :: rest.rdropWhile p := by
  simp only [List.rdropWhile, List.reverse_cons, List.dropWhile_append, List.reverse_eq_nil_iff]
  cases rest.reverse.dropWhile p with
  | nil => rfl
  | cons b kept => simp

/-- The recursion goes from the left, but what it leaves out is the longest blank end. -/
theorem trimEnd_eq_rdropWhile (text : List Char) : trimEnd text = text.rdropWhile isBlank := by
  induction text with
  | nil => rfl
  | cons c rest ih =>
    rw [trimEnd, ih, rdropWhile_cons]
    cases rest.rdropWhile isBlank with
    | nil => rw [if_pos rfl, List.rdropWhile_singleton]
    | cons d kept => rw [if_neg (List.cons_ne_nil d kept)]

theorem trimEnd_append {text blank : List Char} (hblank : Blank blank)
    (hlast : ∀ c ∈ text.getLast?, ¬ WhiteSpace c) : trimEnd (text ++ blank) = text := by
  have hself : text.rdropWhile isBlank = text := by
    rw [List.rdropWhile_eq_self_iff]
    intro hne hc
    exact hlast _ (List.getLast?_eq_some_getLast hne) ((isBlank_iff_whiteSpace _).1 hc)
  have hrev : ∀ c ∈ blank.reverse, isBlank c = true :=
    fun c hc => hblank.isBlank c (List.mem_reverse.1 hc)
  rw [trimEnd_eq_rdropWhile, List.rdropWhile, List.reverse_append,
    List.dropWhile_append_of_pos hrev]
  exact hself

/-- A bare text is found again in any padding. -/
theorem trim_append {before core after : List Char} (hbefore : Blank before) (hcore : Bare core)
    (hafter : Blank after) : trim (before ++ core ++ after) = core := by
  rw [trim, List.append_assoc, List.dropWhile_append_of_pos hbefore.isBlank]
  cases core with
  | nil =>
    have hall : after.dropWhile isBlank = [] := List.dropWhile_eq_nil_iff.2 hafter.isBlank
    rw [List.nil_append, hall]
    rfl
  | cons c core =>
    have hc : ¬ isBlank c = true := fun hc => hcore.first c rfl ((isBlank_iff_whiteSpace c).1 hc)
    rw [List.cons_append, List.dropWhile_cons_of_neg hc, ← List.cons_append]
    exact trimEnd_append hafter hcore.last

/-! ## What is left -/

theorem trim_eq_rdropWhile_dropWhile (text : List Char) :
    trim text = (text.dropWhile isBlank).rdropWhile isBlank :=
  trimEnd_eq_rdropWhile _

theorem bare_trim (text : List Char) : Bare (trim text) := by
  rw [trim_eq_rdropWhile_dropWhile]
  constructor
  · intro c hc hwhite
    have hhead : (text.dropWhile isBlank).head? = some c := by
      obtain ⟨rest, hrest⟩ := List.rdropWhile_prefix isBlank (text.dropWhile isBlank)
      rw [← hrest, List.head?_append, hc]
      rfl
    have hnot := List.head?_dropWhile_not isBlank text
    rw [hhead] at hnot
    exact absurd ((isBlank_iff_whiteSpace c).2 hwhite) (Bool.eq_false_iff.1 hnot)
  · intro c hc hwhite
    obtain ⟨hne, rfl⟩ := List.mem_getLast?_eq_getLast hc
    exact List.rdropWhile_last_not isBlank _ hne ((isBlank_iff_whiteSpace _).2 hwhite)

theorem exists_trim (text : List Char) :
    ∃ before after, Blank before ∧ Blank after ∧ text = before ++ trim text ++ after := by
  refine ⟨text.takeWhile isBlank, (text.dropWhile isBlank).rtakeWhile isBlank, ?_, ?_, ?_⟩
  · intro c hc
    exact (isBlank_iff_whiteSpace c).1 (List.mem_takeWhile_imp hc)
  · intro c hc
    exact (isBlank_iff_whiteSpace c).1 (List.mem_rtakeWhile_imp hc)
  · rw [trim_eq_rdropWhile_dropWhile, List.append_assoc, List.rdropWhile_append_rtakeWhile,
      List.takeWhile_append_dropWhile]

/-! ## Paddings -/

/-- White space, or nothing, before and after a core. -/
def BlankPadded (core raw : String) : Prop :=
  ∃ before after : String,
    Blank before.toList ∧ Blank after.toList ∧ raw = before ++ core ++ after

theorem trim_eq_iff {core raw : String} :
    trim raw.toList = core.toList ↔ BlankPadded core raw ∧ Bare core.toList := by
  constructor
  · intro h
    obtain ⟨before, after, hbefore, hafter, hraw⟩ := exists_trim raw.toList
    refine ⟨⟨String.ofList before, String.ofList after, by simpa using hbefore,
      by simpa using hafter, String.toList_inj.1 ?_⟩, h ▸ bare_trim raw.toList⟩
    rw [hraw, h]
    simp
  · rintro ⟨⟨before, after, hbefore, hafter, rfl⟩, hcore⟩
    rw [String.toList_append, String.toList_append]
    exact trim_append hbefore hcore hafter

end Text
end CheckedSelect
