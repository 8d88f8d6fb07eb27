import CheckedSelect.Proofs.Query.Conditions

/-!
# CheckedSelect.Proofs.Query.Unambiguous

With the default options a statement can be read back, up to normal form: no name and no literal
passes for a part of the statement around it.

* `join_selfDelimiting`: a join with all its conditions. A row of joins ends where no kind of join
  begins.
* `Selection.selfDelimiting`: what stands before FROM.
* `render_default_eq_iff`: two queries have one text exactly when they have one normal form.
-/

namespace CheckedSelect

open Text

/-! ## Joins -/

namespace Join

theorem toList_renderConditions_cons (c : Linked JoinPredicate) (cs : List (Linked JoinPredicate)) :
    (renderConditions default (c :: cs)).toList =
      ' ' :: 'O' :: 'N' :: ' ' :: ((c.condition.render default).toList ++
        (String.join (cs.map (Linked.render (JoinPredicate.render default)))).toList) := by
  simp [renderConditions]

theorem conditions_selfDelimiting :
    SelfDelimiting (renderConditions default) normalConditions (Next relationLetters) := by
  intro cs ds x y hx hy h
  have hnil : (renderConditions default []).toList = [] := rfl
  have hon : 'O' ∈ relationLetters := by decide
  cases cs with
  | nil =>
    cases ds with
    | nil =>
      rw [hnil] at h
      exact ⟨rfl, h⟩
    | cons d ds =>
      rw [hnil, List.nil_append, toList_renderConditions_cons] at h
      rw [h] at hx
      exact absurd hon hx.second_not_mem
  | cons c cs =>
    cases ds with
    | nil =>
      rw [hnil, List.nil_append, toList_renderConditions_cons] at h
      rw [← h] at hy
      exact absurd hon hy.second_not_mem
    | cons d ds =>
      rw [toList_renderConditions_cons, toList_renderConditions_cons] at h
      simp only [List.cons_append, List.append_assoc, List.cons.injEq, true_and] at h
      -- The first condition ends where the row of the others begins.
      obtain ⟨hfirst, hrest⟩ := joinPredicate_selfDelimiting (Linked.next_row _ cs hx)
        (Linked.next_row _ ds hy) h
      obtain ⟨hothers, hxy⟩ := Linked.row_selfDelimiting joinPredicate_selfDelimiting hx hy hrest
      exact ⟨by rw [normalConditions, normalConditions, hfirst, hothers], hxy⟩

theorem toList_render (j : Join) :
    (j.render default).toList = ' ' :: (j.kind.keyword.toList ++ ' ' :: 'J' :: 'O' :: 'I' :: 'N' ::
      ' ' :: ((Identifier.render default j.table).toList ++
        (renderConditions default j.conditions).toList)) := by
  simp [Join.render]

end Join

/-- The letters that the kinds of joins begin with. -/
def joinLetters : List Char := ['I', 'L', 'R', 'F']

theorem JoinKind.toList_keyword (k : JoinKind) :
    ∃ c cs, k.keyword.toList = c :: cs ∧ c ∈ joinLetters ∧ c ∉ relationLetters := by
  cases k with
  | inner => exact ⟨'I', ['N', 'N', 'E', 'R'], by decide, by decide, by decide⟩
  | left => exact ⟨'L', ['E', 'F', 'T'], by decide, by decide, by decide⟩
  | right => exact ⟨'R', ['I', 'G', 'H', 'T'], by decide, by decide, by decide⟩
  | full => exact ⟨'F', "ULL OUTER".toList, by decide, by decide, by decide⟩

theorem JoinKind.keyword_append_inj {k k' : JoinKind} {x y : List Char}
    (h : k.keyword.toList ++ ' ' :: 'J' :: x = k'.keyword.toList ++ ' ' :: 'J' :: y) :
    k = k' ∧ x = y := by
  cases k <;> cases k' <;> simp_all [keyword]

theorem join_selfDelimiting :
    SelfDelimiting (Join.render default) Join.normal (Next relationLetters) := by
  intro j k x y hx hy h
  rw [Join.toList_render, Join.toList_render] at h
  simp only [List.cons_append, List.append_assoc, List.cons.injEq, true_and] at h
  obtain ⟨hkind, hrest⟩ := JoinKind.keyword_append_inj h
  simp only [List.cons.injEq, true_and] at hrest
  obtain ⟨htable, hafter⟩ := name_selfDelimiting trivial trivial hrest
  obtain ⟨hconditions, hxy⟩ := Join.conditions_selfDelimiting hx hy hafter
  exact ⟨by rw [Join.normal, Join.normal, hkind, htable, hconditions], hxy⟩

namespace Join

theorem exists_render_append (j : Join) (x : List Char) :
    ∃ k r, (j.render default).toList ++ x = ' ' :: k :: r ∧ k ∈ joinLetters ∧
      k ∉ relationLetters := by
  obtain ⟨k, ks, hk, hmem, hnot⟩ := j.kind.toList_keyword
  rw [toList_render, hk]
  exact ⟨k, _, rfl, hmem, hnot⟩

/-- A further join ends the conditions of the one before it. -/
theorem next_render_append (j : Join) (x : List Char) :
    Next relationLetters ((j.render default).toList ++ x) := by
  obtain ⟨k, r, hk, -, hnot⟩ := exists_render_append j x
  rw [hk]
  exact .word hnot

theorem not_next_render_append (j : Join) (x : List Char) :
    ¬ Next (relationLetters ++ joinLetters) ((j.render default).toList ++ x) := by
  intro hx
  obtain ⟨k, r, hk, hmem, -⟩ := exists_render_append j x
  rw [hk] at hx
  exact hx.second_not_mem (List.mem_append_right _ hmem)

theorem row_selfDelimiting :
    SelfDelimiting (fun js => String.join (js.map (Join.render default))) (List.map normal)
      (Next (relationLetters ++ joinLetters)) :=
  join_selfDelimiting.join next_render_append
    (fun _ hx => hx.mono fun _ hc => List.mem_append_left _ hc) not_next_render_append

end Join

/-! ## The whole statement -/

theorem toList_intercalate_cons (sep a : String) (as : List String) :
    (String.intercalate sep (a :: as)).toList =
      a.toList ++ (String.join (as.map fun b => sep ++ b)).toList := by
  induction as generalizing a with
  | nil => simp
  | cons b as ih =>
    rw [String.intercalate_cons_cons, String.toList_append, String.toList_append, ih]
    simp

/-- The columns after the first one, each behind a comma. -/
def furtherColumns (names : List String) : String :=
  String.join (names.map fun name => ", " ++ Identifier.render default name)

theorem furtherColumns_selfDelimiting :
    SelfDelimiting furtherColumns (List.map Identifier.sanitize) (Next []) := by
  have hitem : SelfDelimiting (fun name => ", " ++ Identifier.render default name)
      Identifier.sanitize fun _ => True := by
    intro a b x y _ _ h
    simp only [String.toList_append, List.append_assoc] at h
    exact name_selfDelimiting trivial trivial (List.append_cancel_left h)
  refine hitem.join (fun _ _ => trivial) (fun _ _ => trivial) ?_
  intro name x hx
  rw [String.toList_append] at hx
  exact absurd hx.head_eq (by decide)

namespace Selection

theorem toList_render_columns_cons (name : String) (names : List String) :
    ((columns (name :: names)).render default).toList =
      '`' :: ((Identifier.sanitize name).toList ++ '`' :: (furtherColumns names).toList) := by
  rw [Selection.render, Identifier.renderList, List.map_cons, toList_intercalate_cons,
    Identifier.toList_render_default, List.map_map, furtherColumns, List.cons_append,
    List.append_assoc]
  rfl

theorem toList_render_columns_nil : ((columns []).render default).toList = [] := rfl

theorem toList_render_all : (all.render default).toList = ['*'] := rfl

theorem selfDelimiting : SelfDelimiting (Selection.render default) Selection.normal (Next []) := by
  intro s t x y hx hy h
  -- An asterisk, a backtick and the blank after an empty list tell the three forms apart.
  have hblank : ∀ {c : Char} {r z : List Char}, Next [] z → z = c :: r → c = ' ' :=
    fun hz he => (he ▸ hz).head_eq
  cases s with
  | all =>
    rw [toList_render_all] at h
    cases t with
    | all => exact ⟨rfl, (List.cons.inj h).2⟩
    | columns names =>
      cases names with
      | nil => exact absurd (hblank hy h.symm) (by decide)
      | cons name names =>
        rw [toList_render_columns_cons] at h
        exact absurd (List.cons.inj h).1 (by decide)
  | columns names =>
    cases names with
    | nil =>
      rw [toList_render_columns_nil] at h
      cases t with
      | all => exact absurd (hblank hx h) (by decide)
      | columns names' =>
        cases names' with
        | nil => exact ⟨rfl, h⟩
        | cons name' names' =>
          rw [toList_render_columns_cons] at h
          exact absurd (hblank hx h) (by decide)
    | cons name names =>
      rw [toList_render_columns_cons] at h
      cases t with
      | all => exact absurd (List.cons.inj h).1 (by decide)
      | columns names' =>
        cases names' with
        | nil => exact absurd (hblank hy h.symm) (by decide)
        | cons name' names' =>
          rw [toList_render_columns_cons] at h
          simp only [List.cons_append, List.append_assoc, List.cons.injEq, true_and] at h
          obtain ⟨hname, hrest⟩ := append_inj_of_not_mem
            (Identifier.backtick_not_mem_sanitize name)
            (Identifier.backtick_not_mem_sanitize name') h
          obtain ⟨hnames, hxy⟩ := furtherColumns_selfDelimiting hx hy hrest
          refine ⟨?_, hxy⟩
          rw [Selection.normal, Selection.normal, List.map_cons, List.map_cons, hnames,
            String.toList_inj.1 hname]

end Selection

namespace Query

theorem toList_renderFilters_cons (c : Linked Predicate) (cs : List (Linked Predicate)) :
    (renderFilters default (c :: cs)).toList =
      ' ' :: 'W' :: ("HERE 1 = 1".toList ++
        (String.join ((c :: cs).map (Linked.render (Predicate.render default)))).toList) := by
  rw [renderFilters_cons, String.toList_append]
  rfl

/-- The filters stand at the end, behind a word that no join and no condition begins with. -/
theorem next_renderFilters (cs : List (Linked Predicate)) :
    Next (relationLetters ++ joinLetters) (renderFilters default cs).toList := by
  cases cs with
  | nil => exact .end_ _
  | cons c cs =>
    rw [toList_renderFilters_cons]
    exact .word (by decide)

theorem renderFilters_inj {cs ds : List (Linked Predicate)}
    (h : (renderFilters default cs).toList = (renderFilters default ds).toList) :
    cs.map (Linked.map Predicate.normal) = ds.map (Linked.map Predicate.normal) := by
  have hnil : (renderFilters default []).toList = [] := rfl
  cases cs with
  | nil =>
    cases ds with
    | nil => rfl
    | cons d ds =>
      rw [hnil, toList_renderFilters_cons] at h
      cases h
  | cons c cs =>
    cases ds with
    | nil =>
      rw [hnil, toList_renderFilters_cons] at h
      cases h
    | cons d ds =>
      rw [toList_renderFilters_cons, toList_renderFilters_cons] at h
      simp only [List.cons.injEq, true_and, List.append_cancel_left_eq] at h
      refine (Linked.row_selfDelimiting predicate_selfDelimiting (.end_ _) (.end_ _) ?_).1
      rw [List.append_nil, List.append_nil]
      exact h

theorem toList_render (q : Query) :
    (q.render default).toList = "SELECT ".toList ++ ((q.selection.render default).toList ++
      ' ' :: 'F' :: ("ROM ".toList ++ ((Identifier.render default q.table).toList ++
        ((String.join (q.joins.map (Join.render default))).toList ++
          (renderFilters default q.filters).toList)))) := by
  simp [Query.render, renderSource]

theorem normal_eq_of_render_eq {p q : Query} (h : p.render default = q.render default) :
    p.normal = q.normal := by
  have htext := congrArg String.toList h
  rw [toList_render, toList_render] at htext
  obtain ⟨hselection, hfrom⟩ := Selection.selfDelimiting (.word List.not_mem_nil)
    (.word List.not_mem_nil) (List.append_cancel_left htext)
  simp only [List.cons.injEq, true_and, List.append_cancel_left_eq] at hfrom
  obtain ⟨htable, hjoins⟩ := name_selfDelimiting trivial trivial hfrom
  obtain ⟨hjoins, hfilters⟩ := Join.row_selfDelimiting (next_renderFilters p.filters)
    (next_renderFilters q.filters) hjoins
  rw [Query.normal, Query.normal, htable, hselection, hjoins, renderFilters_inj hfilters]

/-- No name and no literal can change the structure of a statement: its text determines all of the
query but what the normal form leaves out, and nothing else of the query shows in it. -/
theorem render_default_eq_iff (p q : Query) :
    p.render default = q.render default ↔ p.normal = q.normal := by
  constructor
  · exact normal_eq_of_render_eq
  · intro h
    rw [render_eq_render_normal, render_eq_render_normal, h]

end Query

end CheckedSelect
