/-!
# CheckedSelect.Proofs.Text.SelfDelimiting

Texts that can be told apart together with what is written after them.

* `SelfDelimiting write meaning Next`: a written thing is known by the front of the whole text, up
  to `meaning`, as long as what comes next is in `Next`.
* `Next`: what comes next is nothing, or a blank and a word that begins with none of some letters.
* `SelfDelimiting.join`: if the things are self-delimiting and none of them can be taken for what
  comes after the last one, then so are rows of them.
-/

namespace CheckedSelect
namespace Text

def SelfDelimiting {α β : Type} (write : α → String) (meaning : α → β)
    (Next : List Char → Prop) : Prop :=
  ∀ ⦃a b : α⦄ ⦃x y : List Char⦄, Next x → Next y →
    (write a).toList ++ x = (write b).toList ++ y → meaning a = meaning b ∧ x = y

/-- The end, or a blank and a word that begins with another letter than these. -/
def Next (letters : List Char) (x : List Char) : Prop :=
  x = [] ∨ ∃ c r, x = ' ' :: c :: r ∧ c ∉ letters

theorem Next.end_ (letters : List Char) : Next letters [] := .inl rfl

theorem Next.word {letters : List Char} {c : Char} {r : List Char} (h : c ∉ letters) :
    Next letters (' ' :: c :: r) := .inr ⟨c, r, rfl, h⟩

theorem Next.mono {letters more : List Char} {x : List Char} (h : Next more x)
    (hsub : ∀ c ∈ letters, c ∈ more) : Next letters x := by
  rcases h with rfl | ⟨c, r, rfl, hc⟩
  · exact .end_ letters
  · exact .word fun hm => hc (hsub c hm)

/-- What comes next begins with a blank, if with anything. -/
theorem Next.head_eq {letters : List Char} {c : Char} {r : List Char}
    (h : Next letters (c :: r)) : c = ' ' := by
  rcases h with h | ⟨d, r', h, -⟩
  · cases h
  · cases h; rfl

theorem Next.second_not_mem {letters : List Char} {b c : Char} {r : List Char}
    (h : Next letters (b :: c :: r)) : c ∉ letters := by
  rcases h with h | ⟨d, r', h, hd⟩
  · cases h
  · cases h; exact hd

/-- A mark ends the text before it when the text does not contain it. -/
theorem append_inj_of_not_mem {mark : Char} {a b x y : List Char} (ha : mark ∉ a) (hb : mark ∉ b)
    (h : a ++ mark :: x = b ++ mark :: y) : a = b ∧ x = y := by
  induction a generalizing b with
  | nil =>
    cases b with
    | nil => exact ⟨rfl, (List.cons.inj h).2⟩
    | cons d b =>
      obtain ⟨rfl, -⟩ := List.cons.inj h
      exact absurd List.mem_cons_self hb
  | cons c a ih =>
    cases b with
    | nil =>
      obtain ⟨rfl, -⟩ := List.cons.inj h
      exact absurd List.mem_cons_self ha
    | cons d b =>
      obtain ⟨rfl, htail⟩ := List.cons.inj h
      obtain ⟨rfl, hxy⟩ := ih (List.not_mem_of_not_mem_cons ha) (List.not_mem_of_not_mem_cons hb) htail
      exact ⟨rfl, hxy⟩

/-- A text without blanks ends where the next thing begins. -/
theorem append_inj_of_no_blank {a b x y : List Char} (ha : ' ' ∉ a) (hb : ' ' ∉ b)
    (hx : Next [] x) (hy : Next [] y) (h : a ++ x = b ++ y) : a = b ∧ x = y := by
  rcases hx with rfl | ⟨c, x, rfl, -⟩
  · rcases hy with rfl | ⟨d, y, rfl, -⟩
    · exact ⟨by simpa using h, rfl⟩
    · rw [List.append_nil] at h
      exact absurd (h ▸ by simp) ha
  · rcases hy with rfl | ⟨d, y, rfl, -⟩
    · rw [List.append_nil] at h
      exact absurd (h ▸ by simp) hb
    · obtain ⟨hab, hxy⟩ := append_inj_of_not_mem ha hb h
      exact ⟨hab, by rw [hxy]⟩

section Rows

variable {α β : Type} {write : α → String} {meaning : α → β} {Within After : List Char → Prop}

/-- What stands after one thing of a row is the rest of the row with all that follows. -/
theorem within_join (hnext : ∀ a x, Within ((write a).toList ++ x))
    (hlast : ∀ x, After x → Within x) (as : List α) {x : List Char} (hx : After x) :
    Within ((String.join (as.map write)).toList ++ x) := by
  cases as with
  | nil =>
    rw [List.map_nil, String.join_nil, String.toList_empty, List.nil_append]
    exact hlast x hx
  | cons a as =>
    rw [List.map_cons, String.join_cons, String.toList_append, List.append_assoc]
    exact hnext a _

/-- Rows of self-delimiting things. Each may be followed by another one or by the end of the row,
and nothing that comes after the row looks like one more of them. -/
theorem SelfDelimiting.join (hitem : SelfDelimiting write meaning Within)
    (hnext : ∀ a x, Within ((write a).toList ++ x)) (hlast : ∀ x, After x → Within x)
    (hafter : ∀ a x, ¬ After ((write a).toList ++ x)) :
    SelfDelimiting (fun as => String.join (as.map write)) (List.map meaning) After := by
  intro as
  induction as with
  | nil =>
    intro bs x y hx hy h
    cases bs with
    | nil => exact ⟨rfl, by simpa using h⟩
    | cons b bs =>
      simp only [List.map_nil, String.join_nil, String.toList_empty, List.nil_append,
        List.map_cons, String.join_cons, String.toList_append, List.append_assoc] at h
      exact absurd (h ▸ hx) (hafter b _)
  | cons a as ih =>
    intro bs x y hx hy h
    cases bs with
    | nil =>
      simp only [List.map_nil, String.join_nil, String.toList_empty, List.nil_append,
        List.map_cons, String.join_cons, String.toList_append, List.append_assoc] at h
      exact absurd (h ▸ hy) (hafter a _)
    | cons b bs =>
      simp only [List.map_cons, String.join_cons, String.toList_append, List.append_assoc] at h
      obtain ⟨hab, hrest⟩ := hitem (within_join hnext hlast as hx)
        (within_join hnext hlast bs hy) h
      obtain ⟨habs, hxy⟩ := ih hx hy hrest
      exact ⟨by rw [List.map_cons, List.map_cons, hab, habs], hxy⟩

end Rows

end Text
end CheckedSelect
