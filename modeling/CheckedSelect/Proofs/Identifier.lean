import CheckedSelect.Identifier
import CheckedSelect.Proofs.Text.SelfDelimiting
import Mathlib.Data.List.Forall2

/-!
# CheckedSelect.Proofs.Identifier

Names side by side, with and without backticks.

* `Kept`: the characters that a name keeps. None of them is a backtick, a dot or a comma, so a name
  ends at the mark that is written after it.
* `intercalate_inj`: a row of texts without commas is known by the whole of it.
* `names_separable`: the text of a dotted pair, or of a list of names, tells which characters each
  name keeps.
-/

namespace CheckedSelect
namespace Identifier

/-! ## The characters that are kept -/

/-- An ASCII letter, a digit, an underscore or a hyphen. -/
def Kept (c : Char) : Prop :=
  ('A' ≤ c ∧ c ≤ 'Z') ∨ ('a' ≤ c ∧ c ≤ 'z') ∨ ('0' ≤ c ∧ c ≤ '9') ∨ c = '_' ∨ c = '-'

instance (c : Char) : Decidable (Kept c) := inferInstanceAs (Decidable (_ ∨ _))

theorem isNameChar_iff_kept (c : Char) : isNameChar c = true ↔ Kept c := by
  have hupper : c.isUpper = true ↔ 'A' ≤ c ∧ c ≤ 'Z' := decide_eq_true_iff
  have hlower : c.isLower = true ↔ 'a' ≤ c ∧ c ≤ 'z' :=
    Bool.and_eq_true_iff.trans (and_congr decide_eq_true_iff decide_eq_true_iff)
  have hdigit : c.isDigit = true ↔ '0' ≤ c ∧ c ≤ '9' :=
    Bool.and_eq_true_iff.trans (and_congr decide_eq_true_iff decide_eq_true_iff)
  have halpha : c.isAlpha = true ↔ c.isUpper = true ∨ c.isLower = true := Bool.or_eq_true_iff
  simp only [isNameChar, Char.isAlphanum, Bool.or_eq_true, beq_iff_eq, halpha, hupper, hlower, hdigit,
    Kept, or_assoc]

theorem toList_sanitize_eq_filter (name : String) :
    (sanitize name).toList = name.toList.filter fun c => decide (Kept c) := by
  rw [toList_sanitize]
  apply List.filter_congr
  intro c _
  rw [Bool.eq_iff_iff, isNameChar_iff_kept, decide_eq_true_eq]

theorem sanitize_append (a b : String) : sanitize (a ++ b) = sanitize a ++ sanitize b := by
  simp [sanitize]

theorem quote_inj {a b : String} (h : quote a = quote b) : sanitize a = sanitize b := by
  unfold quote at h
  exact (String.append_right_inj "`").1 ((String.append_left_inj "`").1 h)

/-- Two names are written alike exactly when the same characters of them are kept. -/
theorem render_eq_iff {o : RenderOptions} {a b : String} :
    render o a = render o b ↔ sanitize a = sanitize b := by
  unfold render
  cases o.quoteIdentifiers with
  | true =>
    constructor
    · exact quote_inj
    · intro h
      exact congrArg (fun name => "`" ++ name ++ "`") h
  | false => exact Iff.rfl

/-- A mark that no name keeps, other than the backtick. -/
def IsMark (c : Char) : Prop := ¬ Kept c ∧ c ≠ '`'

instance (c : Char) : Decidable (IsMark c) := inferInstanceAs (Decidable (_ ∧ _))

theorem mark_not_mem_render {mark : Char} (h : IsMark mark) (o : RenderOptions) (name : String) :
    mark ∉ (render o name).toList := by
  have hbare : mark ∉ (sanitize name).toList := by
    rw [toList_sanitize]
    intro hmem
    exact h.1 ((isNameChar_iff_kept mark).1 (List.mem_filter.1 hmem).2)
  unfold render
  cases o.quoteIdentifiers with
  | true => simpa [quote, h.2] using hbare
  | false => exact hbare

/-! ## Rows of texts -/

section Rows

variable {mark : Char} {gap : String}

theorem mark_mem_intercalate (mark : Char) (gap a b : String) (more : List String) :
    mark ∈ (String.intercalate (String.singleton mark ++ gap) (a :: b :: more)).toList := by
  simp [String.intercalate_cons_cons]

/-- No item has the first character of what stands between them, so an item ends where it is first
found. -/
theorem intercalate_inj {as bs : List String} (ha : ∀ a ∈ as, mark ∉ a.toList)
    (hb : ∀ b ∈ bs, mark ∉ b.toList) (hne : as ≠ [] ∧ bs ≠ [])
    (h : String.intercalate (String.singleton mark ++ gap) as =
      String.intercalate (String.singleton mark ++ gap) bs) : as = bs := by
  induction as generalizing bs with
  | nil => exact absurd rfl hne.1
  | cons a as ih =>
    cases bs with
    | nil => exact absurd rfl hne.2
    | cons b bs =>
      obtain ⟨hfirst, hothers⟩ := List.forall_mem_cons.1 ha
      obtain ⟨hfirst', hothers'⟩ := List.forall_mem_cons.1 hb
      cases as with
      | nil =>
        cases bs with
        | nil => simpa using h
        | cons b' bs =>
          have hmark := mark_mem_intercalate mark gap b b' bs
          rw [← h, String.intercalate_singleton] at hmark
          exact absurd hmark hfirst
      | cons a' as =>
        cases bs with
        | nil =>
          have hmark := mark_mem_intercalate mark gap a a' as
          rw [h, String.intercalate_singleton] at hmark
          exact absurd hmark hfirst'
        | cons b' bs =>
          have htext := congrArg String.toList h
          simp only [String.intercalate_cons_cons, String.toList_append, String.toList_singleton,
            List.append_assoc, List.singleton_append] at htext
          obtain ⟨hab, hrest⟩ := Text.append_inj_of_not_mem hfirst hfirst' htext
          have hrows := String.toList_inj.1 (List.append_cancel_left hrest)
          have hboth : a' :: as ≠ [] ∧ b' :: bs ≠ [] := ⟨List.cons_ne_nil _ _, List.cons_ne_nil _ _⟩
          rw [String.toList_inj.1 hab, ih hothers hothers' hboth hrows]

end Rows

/-! ## Names in a row -/

theorem renderQualified_eq_iff {o : RenderOptions} {t c t' c' : String} :
    renderQualified o t c = renderQualified o t' c' ↔
      sanitize t = sanitize t' ∧ sanitize c = sanitize c' := by
  have hdot : IsMark '.' := by decide
  rw [← render_eq_iff (o := o), ← render_eq_iff (o := o)]
  constructor
  · intro h
    have htext := congrArg String.toList h
    simp only [renderQualified, String.toList_append, List.append_assoc] at htext
    obtain ⟨ht, hc⟩ := Text.append_inj_of_not_mem (mark_not_mem_render hdot o t)
      (mark_not_mem_render hdot o t') htext
    exact ⟨String.toList_inj.1 ht, String.toList_inj.1 hc⟩
  · rintro ⟨ht, hc⟩
    rw [renderQualified, ht, hc]
    rfl

theorem renderList_eq_iff {o : RenderOptions} {xs ys : List String} :
    renderList o xs = renderList o ys ↔
      List.Forall₂ (fun x y => sanitize x = sanitize y) xs ys := by
  rw [renderList, renderList, ← List.forall₂_eq_eq_eq, List.forall₂_map_left_iff,
    List.forall₂_map_right_iff]
  simp only [render_eq_iff]

/-- Between backticks even an empty name can be seen, so a list of names is not written as none. -/
theorem intercalate_quoted_ne_empty {o : RenderOptions} (ho : o.quoteIdentifiers = true)
    {names : List String} (hne : names ≠ []) :
    String.intercalate ", " (renderList o names) ≠ "" := by
  cases names with
  | nil => exact absurd rfl hne
  | cons name names =>
    intro h
    have htext := congrArg String.toList h
    cases names with
    | nil => simp [renderList, render, ho, quote] at htext
    | cons second names => simp [renderList, String.intercalate_cons_cons] at htext

theorem intercalate_renderList_eq_iff {o : RenderOptions} {xs ys : List String}
    (h : o.quoteIdentifiers = true ∨ (xs ≠ [] ∧ ys ≠ [])) :
    String.intercalate ", " (renderList o xs) = String.intercalate ", " (renderList o ys) ↔
      List.Forall₂ (fun x y => sanitize x = sanitize y) xs ys := by
  have hcomma : IsMark ',' := by decide
  have hitems : ∀ names : List String, ∀ text ∈ renderList o names, ',' ∉ text.toList := by
    intro names text htext
    obtain ⟨name, -, rfl⟩ := List.mem_map.1 htext
    exact mark_not_mem_render hcomma o name
  rw [← renderList_eq_iff (o := o)]
  refine ⟨?_, fun h => by rw [h]⟩
  intro htext
  by_cases hboth : xs ≠ [] ∧ ys ≠ []
  · have hsep : (", " : String) = String.singleton ',' ++ " " := rfl
    rw [hsep] at htext
    refine intercalate_inj (hitems xs) (hitems ys) ?_ htext
    exact ⟨fun hx => hboth.1 (List.map_eq_nil_iff.1 hx), fun hy => hboth.2 (List.map_eq_nil_iff.1 hy)⟩
  · have ho := h.resolve_right hboth
    by_cases hx : xs = []
    · subst hx
      by_cases hy : ys = []
      · rw [hy]
      · exact absurd htext.symm (intercalate_quoted_ne_empty ho hy)
    · have hy : ys = [] := Decidable.byContradiction fun hy => hboth ⟨hx, hy⟩
      subst hy
      exact absurd htext (intercalate_quoted_ne_empty ho hx)

/-- A dotted pair of names, and a list of names with commas, are known from their text up to the
characters that are dropped, with and without backticks; only a bare list must not be empty. The
characters that stay are the letters, digits, underscores and hyphens in the order in which they
stood, so dropping the others twice, or from two parts of a name apart, is the same. -/
theorem names_separable :
    (∀ (o : RenderOptions) (t c t' c' : String),
      renderQualified o t c = renderQualified o t' c' ↔
        sanitize t = sanitize t' ∧ sanitize c = sanitize c') ∧
    (∀ (o : RenderOptions) (xs ys : List String),
      o.quoteIdentifiers = true ∨ (xs ≠ [] ∧ ys ≠ []) →
      (String.intercalate ", " (renderList o xs) = String.intercalate ", " (renderList o ys) ↔
        List.Forall₂ (fun x y => sanitize x = sanitize y) xs ys)) ∧
    (∀ name, sanitize (sanitize name) = sanitize name) ∧
    (∀ a b, sanitize (a ++ b) = sanitize a ++ sanitize b) ∧
    (∀ name, (sanitize name).toList = name.toList.filter fun c => decide (Kept c)) :=
  ⟨fun _ _ _ _ _ => renderQualified_eq_iff, fun _ _ _ => intercalate_renderList_eq_iff,
    sanitize_sanitize, sanitize_append, toList_sanitize_eq_filter⟩

/-- Names that lose every character are told apart by their number alone, and a dot or a comma in a
name is none of the row. -/
theorem bare_rows_apart :
    (["é", "!"] ≠ [] ∧ ["é", "!", ","] ≠ []) ∧
    String.intercalate ", " (renderList .plain ["é", "!"]) ≠
      String.intercalate ", " (renderList .plain ["é", "!", ","]) ∧
    String.intercalate ", " (renderList .plain ["a, b", "c"]) =
      String.intercalate ", " (renderList .plain ["ab", "c;"]) ∧
    renderQualified .plain "a." "b" = renderQualified .plain "a" ".b" := by
  obtain ⟨hpair, hlist, -⟩ := names_separable
  refine ⟨by decide, ?_, ?_, ?_⟩
  · intro h
    have hrow := (hlist .plain _ _ (.inr (by decide))).1 h
    cases hrow.length_eq
  · exact (hlist .plain _ _ (.inr (by decide))).2 (.cons (by decide) (.cons (by decide) .nil))
  · exact (hpair .plain _ _ _ _).2 (by decide)

end Identifier
end CheckedSelect
