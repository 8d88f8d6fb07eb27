import CheckedSelect.Proofs.Checked.Acceptance
import CheckedSelect.Proofs.Query.NormalForm
import CheckedSelect.Typed.Builder

/-!
# CheckedSelect.Proofs.Query.Growth

Where an addition to a query shows in its text.

* `Linked.separated`: conditions in a row, with the word of the later one between two neighbours.
* `renderConditions_eq`, `renderFilters_concat`, `renderSource_concat`: the texts that grow, at the
  place where they grow.
* `Continues`: a text that begins with an earlier one. What every step continues, a row of steps
  continues too (`Continues.foldl`).
* `render_add_filter`, `attempt_filter_continues`: a further filter, added to a query or asked for
  at the checked builder.
* `render_add`: a statement has three parts, each addition changes one of them, and filters asked
  for in a row only ever continue it.
-/

namespace CheckedSelect

/-! ## Rows of conditions -/

/-- Conditions in a row. The word of a condition stands before it, and the first has none. -/
def Linked.separated {α : Type} (text : α → String) : List (Linked α) → String
  | [] => ""
  | [c] => text c.condition
  | c :: d :: rest =>
    text c.condition ++ " " ++ d.relation.keyword ++ " " ++ Linked.separated text (d :: rest)

theorem Linked.separated_cons {α : Type} (text : α → String) (c : Linked α)
    (rest : List (Linked α)) :
    separated text (c :: rest) =
      text c.condition ++ String.join (rest.map (Linked.render text)) := by
  induction rest generalizing c with
  | nil => simp [separated]
  | cons d rest ih =>
    rw [separated, ih, List.map_cons, String.join_cons, Linked.render]
    simp only [String.append_assoc]

theorem Join.renderConditions_eq (o : RenderOptions) (conditions : List (Linked JoinPredicate)) :
    renderConditions o conditions =
      if conditions.isEmpty then ""
      else " ON " ++ Linked.separated (JoinPredicate.render o) conditions := by
  cases conditions with
  | nil => rfl
  | cons c rest =>
    rw [Linked.separated_cons, ← String.append_assoc]
    rfl

namespace Query

/-! ## The parts that grow -/

theorem renderSource_concat (o : RenderOptions) (table : String) (joins : List Join) (j : Join) :
    renderSource o table (joins ++ [j]) = renderSource o table joins ++ j.render o := by
  rw [renderSource, renderSource, List.map_append, String.join_append, List.map_singleton,
    String.join_cons, String.join_nil, String.append_empty]
  simp only [String.append_assoc]

theorem renderFilters_eq_empty_iff (o : RenderOptions) (filters : List (Linked Predicate)) :
    renderFilters o filters = "" ↔ filters = [] := by
  cases filters with
  | nil => exact ⟨fun _ => rfl, fun _ => rfl⟩
  | cons c rest =>
    rw [renderFilters_cons, String.append_eq_empty_iff]
    constructor
    · rintro ⟨hhead, -⟩
      exact absurd hhead (by decide)
    · intro h
      cases h

/-- The text of a further filter, given the text of the ones before it. -/
def furtherFilter (o : RenderOptions) (before : String) (c : Linked Predicate) : String :=
  (if before = "" then " WHERE 1 = 1" else "") ++ " " ++ c.relation.keyword ++ " " ++
    c.condition.render o

theorem renderFilters_concat (o : RenderOptions) (filters : List (Linked Predicate))
    (c : Linked Predicate) :
    renderFilters o (filters ++ [c]) =
      renderFilters o filters ++ furtherFilter o (renderFilters o filters) c := by
  unfold furtherFilter
  cases filters with
  | nil =>
    have hnone : renderFilters o [] = "" := rfl
    rw [hnone, if_pos rfl, List.nil_append, renderFilters_cons, List.map_singleton, Linked.render,
      String.join_cons, String.join_nil]
    simp only [String.append_assoc, String.append_empty, String.empty_append]
  | cons d rest =>
    have hsome : renderFilters o (d :: rest) ≠ "" := by
      rw [Ne, renderFilters_eq_empty_iff]
      exact List.cons_ne_nil d rest
    rw [if_neg hsome, List.cons_append, renderFilters_cons, renderFilters_cons, ← List.cons_append,
      List.map_append, String.join_append, List.map_singleton, Linked.render, String.join_cons,
      String.join_nil]
    simp only [String.append_assoc, String.append_empty, String.empty_append]

theorem render_add_filter (o : RenderOptions) (q : Query) (c : Linked Predicate) :
    (q.add (.filter c)).render o =
      q.render o ++ furtherFilter o (renderFilters o q.filters) c := by
  show "SELECT " ++ q.selection.render o ++ renderSource o q.table q.joins ++
    renderFilters o (q.filters ++ [c]) = _
  rw [renderFilters_concat, ← String.append_assoc]
  rfl

end Query

/-! ## Continued statements -/

/-- The later text begins with the earlier one. -/
def Continues (later earlier : String) : Prop := ∃ rest, later = earlier ++ rest

namespace Continues

theorem refl (text : String) : Continues text text := ⟨"", String.append_empty.symm⟩

theorem trans {later middle earlier : String} (h : Continues later middle)
    (h' : Continues middle earlier) : Continues later earlier := by
  obtain ⟨rest, rfl⟩ := h
  obtain ⟨rest', rfl⟩ := h'
  exact ⟨rest' ++ rest, String.append_assoc⟩

variable {σ β : Type} (text : σ → String) (step : σ → β → σ)

theorem foldl (h : ∀ s b, Continues (text (step s b)) (text s)) (s : σ) (steps : List β) :
    Continues (text (steps.foldl step s)) (text s) := by
  induction steps generalizing s with
  | nil => exact refl _
  | cons b rest ih => exact (ih (step s b)).trans (h s b)

theorem foldl_append (h : ∀ s b, Continues (text (step s b)) (text s)) (s : σ)
    (earlier later : List β) :
    Continues (text ((earlier ++ later).foldl step s)) (text (earlier.foldl step s)) := by
  rw [List.foldl_append]
  exact foldl text step h _ later

end Continues

theorem Query.add_filter_continues (o : RenderOptions) (q : Query) (c : Linked Predicate) :
    Continues ((q.add (.filter c)).render o) (q.render o) :=
  ⟨_, render_add_filter o q c⟩

namespace Checked.Builder

/-- A refused filter leaves the statement as it was. -/
theorem attempt_filter_continues (o : RenderOptions) (b : Builder) (c : Linked Predicate) :
    Continues ((b.attempt (.filter c)).query.render o) (b.query.render o) := by
  unfold attempt
  cases h : b.apply (.filter c) with
  | error cause => exact .refl _
  | ok next =>
    obtain ⟨a, ⟨hcall, -⟩, rfl⟩ := apply_eq_ok_iff.1 h
    cases a with
    | filter c =>
      cases hcall
      exact b.query.add_filter_continues o c
    | selection chosen => cases hcall
    | join j => cases hcall

end Checked.Builder

namespace Query

/-- A statement has three parts: what is selected, the tables it is selected from, and the filters.
Each addition changes one part: a selection replaces the first, a join goes to the end of the second,
and a filter to the end of the third. So filters in a row, of a query or asked for at either builder,
leave every earlier statement at the beginning of every later one. -/
theorem render_add (o : RenderOptions) (q : Query) :
    q.render o = "SELECT " ++ q.selection.render o ++ renderSource o q.table q.joins ++
      renderFilters o q.filters ∧
    (renderFilters o q.filters = "" ↔ q.filters = []) ∧
    (∀ chosen, (q.add (.selection chosen)).render o =
      "SELECT " ++ chosen.render o ++ renderSource o q.table q.joins ++
        renderFilters o q.filters) ∧
    (∀ c : Linked Predicate, (q.add (.filter c)).render o =
      q.render o ++ ((if renderFilters o q.filters = "" then " WHERE 1 = 1" else "") ++
        " " ++ c.relation.keyword ++ " " ++ c.condition.render o)) ∧
    (∀ j : Join, (q.add (.join j)).render o =
      "SELECT " ++ q.selection.render o ++ renderSource o q.table q.joins ++
        (" " ++ j.kind.keyword ++ " JOIN " ++ Identifier.render o j.table ++
          if j.conditions.isEmpty then ""
          else " ON " ++ Linked.separated (JoinPredicate.render o) j.conditions) ++
        renderFilters o q.filters) ∧
    (∀ earlier later : List (Linked Predicate),
      Continues (((earlier ++ later).foldl (fun q c => q.add (.filter c)) q).render o)
        ((earlier.foldl (fun q c => q.add (.filter c)) q).render o)) ∧
    (∀ (s : Checked.Scope) (earlier later : List (Linked Predicate)),
      Continues ((Checked.Builder.run ⟨s, q⟩ ((earlier ++ later).map .filter)).query.render o)
        ((Checked.Builder.run ⟨s, q⟩ (earlier.map .filter)).query.render o)) ∧
    ∀ (t : Typed.Table) (earlier later : List (Linked (Typed.Predicate t))),
      Continues ((Typed.Builder.run ⟨q⟩ ((earlier ++ later).map .filter)).query.render o)
        ((Typed.Builder.run ⟨q⟩ (earlier.map .filter)).query.render o) := by
  refine ⟨rfl, renderFilters_eq_empty_iff o q.filters, fun _ => rfl, render_add_filter o q,
    ?join, ?query, ?checked, ?typed⟩
  case join =>
    intro j
    show "SELECT " ++ q.selection.render o ++ renderSource o q.table (q.joins ++ [j]) ++
      renderFilters o q.filters = _
    rw [renderSource_concat, Join.render, Join.renderConditions_eq]
    simp only [String.append_assoc]
  case query =>
    exact Continues.foldl_append (render o) (fun q c => q.add (.filter c))
      (add_filter_continues o) q
  case checked =>
    intro s earlier later
    rw [Checked.Builder.run, Checked.Builder.run, List.foldl_map, List.foldl_map]
    exact Continues.foldl_append (fun b : Checked.Builder => b.query.render o)
      (fun b c => b.attempt (.filter c)) (Checked.Builder.attempt_filter_continues o) ⟨s, q⟩
      earlier later
  case typed =>
    intro t earlier later
    rw [Typed.Builder.run, Typed.Builder.run, List.foldl_map, List.foldl_map]
    exact Continues.foldl_append (fun b : Typed.Builder t => b.query.render o)
      (fun b c => b.apply (.filter c))
      (fun b c => b.query.add_filter_continues o (c.map Typed.Predicate.untyped)) ⟨q⟩
      earlier later

end Query
end CheckedSelect
