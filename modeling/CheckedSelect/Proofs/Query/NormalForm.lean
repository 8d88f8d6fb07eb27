import CheckedSelect.Query.Rendering

/-!
# CheckedSelect.Proofs.Query.NormalForm

What a statement still shows of a query.

* `Query.normal`: every name without the characters that are dropped, every literal as its own
  text, and an AND before the first condition of each join, where no word is written.
* `render_eq_render_normal`: the text of a query, with the default options, is the text of its
  normal form when literals are written as they stand.
-/

namespace CheckedSelect

open Identifier

/-! ## Normal forms -/

/-- The text of a literal in place of the literal. -/
def Value.normal (v : Value) : Value := .text (v.literal true)

def Reference.normal (r : Reference) : Reference := ⟨sanitize r.table, sanitize r.column⟩

def Predicate.normal : Predicate → Predicate
  | .compare column operator value => .compare (sanitize column) operator value.normal
  | .isNull column => .isNull (sanitize column)
  | .isNotNull column => .isNotNull (sanitize column)
  | .compareColumns left operator right =>
    .compareColumns (sanitize left) operator (sanitize right)

def JoinPredicate.normal : JoinPredicate → JoinPredicate
  | .compare column operator value => .compare column.normal operator value.normal
  | .compareColumns left operator right => .compareColumns left.normal operator right.normal

def Selection.normal : Selection → Selection
  | .all => .all
  | .columns names => .columns (names.map sanitize)

namespace Join

def normalConditions : List (Linked JoinPredicate) → List (Linked JoinPredicate)
  | [] => []
  | c :: cs => ⟨.and, c.condition.normal⟩ :: cs.map (Linked.map JoinPredicate.normal)

def normal (j : Join) : Join :=
  ⟨j.kind, sanitize j.table, normalConditions j.conditions⟩

end Join

def Query.normal (q : Query) : Query where
  table := sanitize q.table
  selection := q.selection.normal
  filters := q.filters.map (Linked.map Predicate.normal)
  joins := q.joins.map Join.normal

/-! ## The text of a normal form -/

/-- Names between backticks, literals as they stand. -/
def RenderOptions.verbatim : RenderOptions := ⟨true, false⟩

theorem Identifier.render_sanitize (o : RenderOptions) (name : String) :
    render o (sanitize name) = render o name := by
  simp [render, quote]

theorem Identifier.render_verbatim (name : String) : render .verbatim name = render default name :=
  rfl

theorem Value.literal_normal (v : Value) : v.normal.literal false = v.literal true := by
  simp [Value.normal, literal, body]

theorem Reference.render_normal (r : Reference) : r.normal.render .verbatim = r.render default := by
  rw [Reference.render, renderQualified, Reference.normal, render_sanitize, render_sanitize,
    render_verbatim, render_verbatim]
  rfl

theorem Predicate.render_normal (p : Predicate) : p.normal.render .verbatim = p.render default := by
  cases p with
  | compare column operator value =>
    show comparison (Identifier.render .verbatim (sanitize column)) operator
      (value.normal.literal false) = _
    rw [render_sanitize, Value.literal_normal]
    rfl
  | isNull column =>
    show Identifier.render .verbatim (sanitize column) ++ " IS NULL" = _
    rw [render_sanitize]
    rfl
  | isNotNull column =>
    show Identifier.render .verbatim (sanitize column) ++ " IS NOT NULL" = _
    rw [render_sanitize]
    rfl
  | compareColumns left operator right =>
    show comparison (Identifier.render .verbatim (sanitize left)) operator
      (Identifier.render .verbatim (sanitize right)) = _
    rw [render_sanitize, render_sanitize]
    rfl

theorem JoinPredicate.render_normal (p : JoinPredicate) :
    p.normal.render .verbatim = p.render default := by
  cases p with
  | compare column operator value =>
    show comparison (column.normal.render .verbatim) operator (value.normal.literal false) = _
    rw [Reference.render_normal, Value.literal_normal]
    rfl
  | compareColumns left operator right =>
    show comparison (left.normal.render .verbatim) operator (right.normal.render .verbatim) = _
    rw [Reference.render_normal, Reference.render_normal]
    rfl

theorem Selection.render_normal (s : Selection) :
    s.normal.render .verbatim = s.render default := by
  cases s with
  | all => rfl
  | columns names =>
    have hnames : renderList .verbatim (names.map sanitize) = renderList default names := by
      rw [renderList, renderList, List.map_map]
      exact List.map_congr_left fun name _ => render_sanitize .verbatim name
    rw [Selection.normal, Selection.render, Selection.render, hnames]

/-- Conditions that have the same texts make the same row. -/
theorem Linked.join_render_map {α β : Type} {text : α → String} {text' : β → String} {f : α → β}
    (h : ∀ a, text' (f a) = text a) (cs : List (Linked α)) :
    String.join ((cs.map (Linked.map f)).map (Linked.render text')) =
      String.join (cs.map (Linked.render text)) := by
  have hrow : (cs.map (Linked.map f)).map (Linked.render text') = cs.map (Linked.render text) := by
    rw [List.map_map]
    refine List.map_congr_left fun c _ => ?_
    rw [Function.comp_apply, Linked.render, Linked.render, Linked.map, h]
  rw [hrow]

theorem Join.render_normal (j : Join) : j.normal.render .verbatim = j.render default := by
  have hconditions : renderConditions .verbatim (normalConditions j.conditions) =
      renderConditions default j.conditions := by
    cases j.conditions with
    | nil => rfl
    | cons c cs =>
      rw [normalConditions, renderConditions, renderConditions, JoinPredicate.render_normal,
        Linked.join_render_map JoinPredicate.render_normal]
  rw [Join.render, Join.render, Join.normal, hconditions, render_sanitize, render_verbatim]

theorem Query.renderFilters_cons (o : RenderOptions) (c : Linked Predicate)
    (cs : List (Linked Predicate)) :
    renderFilters o (c :: cs) =
      " WHERE 1 = 1" ++ String.join ((c :: cs).map (Linked.render (Predicate.render o))) := rfl

theorem Query.render_eq_render_normal (q : Query) : q.render default = q.normal.render .verbatim := by
  have hjoins : (q.joins.map Join.normal).map (Join.render .verbatim) =
      q.joins.map (Join.render default) := by
    rw [List.map_map]
    exact List.map_congr_left fun j _ => Join.render_normal j
  have hfilters : renderFilters .verbatim (q.filters.map (Linked.map Predicate.normal)) =
      renderFilters default q.filters := by
    cases q.filters with
    | nil => rfl
    | cons c cs =>
      rw [List.map_cons, renderFilters_cons, renderFilters_cons, ← List.map_cons,
        Linked.join_render_map Predicate.render_normal]
  rw [Query.render, Query.render, renderSource, renderSource, Query.normal, Selection.render_normal,
    hjoins, hfilters, render_sanitize, render_verbatim]

end CheckedSelect
