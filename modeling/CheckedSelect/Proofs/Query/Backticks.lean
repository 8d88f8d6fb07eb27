import CheckedSelect.Proofs.Query.Unambiguous

/-!
# CheckedSelect.Proofs.Query.Backticks

What the quoting of identifiers adds to a statement: two backticks for each name that is written,
and nothing else.

* `Query.identifiers`, `Query.values`: the names and the literals that a statement writes.
* `Backticked`: a quoted and a bare text that differ in the backticks of so many names. Texts in a
  row add up (`Backticked.append`, `Backticked.join`), and a text without backticks has no names.
* `render_backticked`: the two texts of a query, from those of its parts.
* `backticks_only`: without its backticks the quoted statement is the bare one.
-/

namespace CheckedSelect

/-! ## Names and literals of a query -/

def Selection.identifiers : Selection → List String
  | .all => []
  | .columns names => names

def Reference.identifiers (r : Reference) : List String := [r.table, r.column]

def Predicate.identifiers : Predicate → List String
  | .compare column _ _ => [column]
  | .isNull column => [column]
  | .isNotNull column => [column]
  | .compareColumns left _ right => [left, right]

def JoinPredicate.identifiers : JoinPredicate → List String
  | .compare column _ _ => column.identifiers
  | .compareColumns left _ right => left.identifiers ++ right.identifiers

def Join.identifiers (j : Join) : List String :=
  j.table :: j.conditions.flatMap fun c => c.condition.identifiers

def Predicate.values : Predicate → List Value
  | .compare _ _ value => [value]
  | .isNull _ => []
  | .isNotNull _ => []
  | .compareColumns _ _ _ => []

def JoinPredicate.values : JoinPredicate → List Value
  | .compare _ _ value => [value]
  | .compareColumns _ _ _ => []

def Join.values (j : Join) : List Value := j.conditions.flatMap fun c => c.condition.values

namespace Query

/-- In the order in which they are written, once for each time. -/
def identifiers (q : Query) : List String :=
  q.selection.identifiers ++ q.table :: (q.joins.flatMap Join.identifiers ++
    q.filters.flatMap fun c => c.condition.identifiers)

def values (q : Query) : List Value :=
  q.joins.flatMap Join.values ++ q.filters.flatMap fun c => c.condition.values

end Query

/-! ## Two texts -/

/-- The quoted text is the bare one with the backticks of so many names. -/
structure Backticked (count : Nat) (quoted bare : String) : Prop where
  bare : quoted.toList.filter (· ≠ '`') = bare.toList
  count : quoted.toList.count '`' = 2 * count

namespace Backticked

theorem of_not_mem {text : String} (h : '`' ∉ text.toList) : Backticked 0 text text where
  bare := by
    rw [List.filter_eq_self]
    intro c hc
    exact decide_eq_true fun heq => h (heq ▸ hc)
  count := List.count_eq_zero.2 h

theorem append {m n : Nat} {quoted quoted' bare bare' : String} (h : Backticked m quoted bare)
    (h' : Backticked n quoted' bare') : Backticked (m + n) (quoted ++ quoted') (bare ++ bare') where
  bare := by
    rw [String.toList_append, List.filter_append, h.bare, h'.bare, String.toList_append]
  count := by
    rw [String.toList_append, List.count_append, h.count, h'.count, Nat.mul_add]

/-- A text without names before the two. -/
theorem after {n : Nat} {quoted bare text : String} (ht : '`' ∉ text.toList)
    (h : Backticked n quoted bare) : Backticked n (text ++ quoted) (text ++ bare) := by
  have hboth := (of_not_mem ht).append h
  rwa [Nat.zero_add] at hboth

/-- A text without names behind the two. -/
theorem before {n : Nat} {quoted bare text : String} (h : Backticked n quoted bare)
    (ht : '`' ∉ text.toList) : Backticked n (quoted ++ text) (bare ++ text) :=
  h.append (of_not_mem ht)

theorem join {α β : Type} {items : List α} {names : α → List β} {quoted bare : α → String}
    (h : ∀ a ∈ items, Backticked (names a).length (quoted a) (bare a)) :
    Backticked (items.flatMap names).length (String.join (items.map quoted))
      (String.join (items.map bare)) := by
  induction items with
  | nil => exact of_not_mem List.not_mem_nil
  | cons a rest ih =>
    obtain ⟨ha, hrest⟩ := List.forall_mem_cons.1 h
    rw [List.map_cons, List.map_cons, String.join_cons, String.join_cons, List.flatMap_cons,
      List.length_append]
    exact ha.append (ih hrest)

theorem identifier (quoteStrings : Bool) (name : String) :
    Backticked 1 (Identifier.render ⟨true, quoteStrings⟩ name)
      (Identifier.render ⟨false, quoteStrings⟩ name) := by
  have hname : '`' ∉ (Identifier.sanitize name).toList := Identifier.backtick_not_mem_sanitize name
  have hquoted : (Identifier.render ⟨true, quoteStrings⟩ name).toList =
      '`' :: ((Identifier.sanitize name).toList ++ ['`']) :=
    Identifier.toList_render_default name
  have hinner := of_not_mem hname
  constructor
  · rw [hquoted, List.filter_cons_of_neg (by decide), List.filter_append, hinner.bare,
      List.filter_cons_of_neg (by decide), List.filter_nil, List.append_nil]
    rfl
  · rw [hquoted, List.count_cons_self, List.count_append, hinner.count]
    rfl

end Backticked

/-! ## The parts of a statement -/

section Parts

variable (quoteStrings : Bool)

/-- No literal shows a backtick. -/
def FreeOfBackticks (values : List Value) : Prop :=
  ∀ v ∈ values, '`' ∉ (v.literal quoteStrings).toList

theorem Operator.backtick_not_mem_symbol (operator : Operator) :
    '`' ∉ (" " ++ operator.symbol ++ " ").toList := by
  cases operator <;> decide

theorem Backticked.comparison {m n : Nat} {left left' right right' : String}
    (hl : Backticked m left left') (operator : Operator) (hr : Backticked n right right') :
    Backticked (m + n) (comparison left operator right) (comparison left' operator right') := by
  have htext := (hl.before operator.backtick_not_mem_symbol).append hr
  unfold CheckedSelect.comparison
  simpa only [String.append_assoc] using htext

theorem Reference.render_backticked (r : Reference) :
    Backticked r.identifiers.length (r.render ⟨true, quoteStrings⟩)
      (r.render ⟨false, quoteStrings⟩) :=
  ((Backticked.identifier quoteStrings r.table).before (by decide)).append
    (Backticked.identifier quoteStrings r.column)

theorem Predicate.render_backticked (p : Predicate) (h : FreeOfBackticks quoteStrings p.values) :
    Backticked p.identifiers.length (p.render ⟨true, quoteStrings⟩)
      (p.render ⟨false, quoteStrings⟩) := by
  cases p with
  | compare column operator value =>
    exact (Backticked.identifier quoteStrings column).comparison operator
      (.of_not_mem (h value List.mem_cons_self))
  | isNull column => exact (Backticked.identifier quoteStrings column).before (by decide)
  | isNotNull column => exact (Backticked.identifier quoteStrings column).before (by decide)
  | compareColumns left operator right =>
    exact (Backticked.identifier quoteStrings left).comparison operator
      (Backticked.identifier quoteStrings right)

theorem JoinPredicate.render_backticked (p : JoinPredicate)
    (h : FreeOfBackticks quoteStrings p.values) :
    Backticked p.identifiers.length (p.render ⟨true, quoteStrings⟩)
      (p.render ⟨false, quoteStrings⟩) := by
  cases p with
  | compare column operator value =>
    exact (column.render_backticked quoteStrings).comparison operator
      (.of_not_mem (h value List.mem_cons_self))
  | compareColumns left operator right =>
    exact (left.render_backticked quoteStrings).comparison operator
      (right.render_backticked quoteStrings)

theorem Relation.backtick_not_mem_keyword (r : Relation) :
    '`' ∉ (" " ++ r.keyword ++ " ").toList := by
  cases r <;> decide

/-- A row of conditions, each behind its word. -/
theorem Linked.row_backticked {α : Type} {names : α → List String} {quoted bare : α → String}
    {cs : List (Linked α)}
    (h : ∀ c ∈ cs, Backticked (names c.condition).length (quoted c.condition) (bare c.condition)) :
    Backticked (cs.flatMap fun c => names c.condition).length
      (String.join (cs.map (Linked.render quoted))) (String.join (cs.map (Linked.render bare))) := by
  apply Backticked.join
  intro c hc
  exact (h c hc).after c.relation.backtick_not_mem_keyword

theorem Join.renderConditions_backticked (conditions : List (Linked JoinPredicate))
    (h : FreeOfBackticks quoteStrings (conditions.flatMap fun c => c.condition.values)) :
    Backticked (conditions.flatMap fun c => c.condition.identifiers).length
      (renderConditions ⟨true, quoteStrings⟩ conditions)
      (renderConditions ⟨false, quoteStrings⟩ conditions) := by
  have hall : ∀ c ∈ conditions, Backticked c.condition.identifiers.length
      (c.condition.render ⟨true, quoteStrings⟩) (c.condition.render ⟨false, quoteStrings⟩) := by
    intro c hc
    apply JoinPredicate.render_backticked
    intro v hv
    exact h v (List.mem_flatMap.2 ⟨c, hc, hv⟩)
  cases conditions with
  | nil => exact .of_not_mem List.not_mem_nil
  | cons c rest =>
    obtain ⟨hfirst, hrest⟩ := List.forall_mem_cons.1 hall
    rw [List.flatMap_cons, List.length_append]
    exact (hfirst.after (by decide)).append (Linked.row_backticked hrest)

theorem JoinKind.backtick_not_mem_keyword (k : JoinKind) :
    '`' ∉ (" " ++ k.keyword ++ " JOIN ").toList := by
  cases k <;> decide

theorem Join.render_backticked (j : Join) (h : FreeOfBackticks quoteStrings j.values) :
    Backticked j.identifiers.length (j.render ⟨true, quoteStrings⟩)
      (j.render ⟨false, quoteStrings⟩) := by
  have htable := (Backticked.identifier quoteStrings j.table).after j.kind.backtick_not_mem_keyword
  have hall := htable.append (renderConditions_backticked quoteStrings j.conditions h)
  rw [Nat.add_comm] at hall
  exact hall

theorem Selection.render_columns_cons (o : RenderOptions) (name : String) (rest : List String) :
    (columns (name :: rest)).render o =
      Identifier.render o name ++
        String.join (rest.map fun name => ", " ++ Identifier.render o name) := by
  apply String.toList_inj.1
  rw [Selection.render, Identifier.renderList, List.map_cons, toList_intercalate_cons, List.map_map,
    String.toList_append]
  rfl

theorem Selection.render_backticked (s : Selection) :
    Backticked s.identifiers.length (s.render ⟨true, quoteStrings⟩)
      (s.render ⟨false, quoteStrings⟩) := by
  cases s with
  | all =>
    show Backticked 0 "*" "*"
    exact .of_not_mem (by decide)
  | columns names =>
    cases names with
    | nil => exact .of_not_mem List.not_mem_nil
    | cons name rest =>
      have hfirst := Backticked.identifier quoteStrings name
      have hrest : Backticked (rest.flatMap fun name => [name]).length
          (String.join (rest.map fun name => ", " ++ Identifier.render ⟨true, quoteStrings⟩ name))
          (String.join
            (rest.map fun name => ", " ++ Identifier.render ⟨false, quoteStrings⟩ name)) :=
        Backticked.join fun name _ => (Backticked.identifier quoteStrings name).after (by decide)
      rw [List.flatMap_singleton'] at hrest
      rw [render_columns_cons, render_columns_cons, identifiers, List.length_cons, Nat.add_comm]
      exact hfirst.append hrest

end Parts

namespace Query

theorem renderFilters_backticked (quoteStrings : Bool) (filters : List (Linked Predicate))
    (h : FreeOfBackticks quoteStrings (filters.flatMap fun c => c.condition.values)) :
    Backticked (filters.flatMap fun c => c.condition.identifiers).length
      (renderFilters ⟨true, quoteStrings⟩ filters) (renderFilters ⟨false, quoteStrings⟩ filters) := by
  cases filters with
  | nil => exact .of_not_mem List.not_mem_nil
  | cons c rest =>
    rw [renderFilters_cons, renderFilters_cons]
    apply Backticked.after (by decide)
    apply Linked.row_backticked
    intro c' hc'
    apply Predicate.render_backticked
    intro v hv
    exact h v (List.mem_flatMap.2 ⟨c', hc', hv⟩)

theorem renderSource_backticked (quoteStrings : Bool) (table : String) (joins : List Join)
    (h : FreeOfBackticks quoteStrings (joins.flatMap Join.values)) :
    Backticked (1 + (joins.flatMap Join.identifiers).length)
      (renderSource ⟨true, quoteStrings⟩ table joins)
      (renderSource ⟨false, quoteStrings⟩ table joins) := by
  apply ((Backticked.identifier quoteStrings table).after (by decide)).append
  apply Backticked.join
  intro j hj
  apply Join.render_backticked
  intro v hv
  exact h v (List.mem_flatMap.2 ⟨j, hj, hv⟩)

theorem render_backticked (quoteStrings : Bool) (q : Query)
    (h : FreeOfBackticks quoteStrings q.values) :
    Backticked q.identifiers.length (q.render ⟨true, quoteStrings⟩)
      (q.render ⟨false, quoteStrings⟩) := by
  have hsource := renderSource_backticked quoteStrings q.table q.joins
    fun v hv => h v (List.mem_append_left _ hv)
  have hfilters := renderFilters_backticked quoteStrings q.filters
    fun v hv => h v (List.mem_append_right _ hv)
  have hword : '`' ∉ "SELECT ".toList := by decide
  have hselect := (q.selection.render_backticked quoteStrings).after hword
  have hlength : q.identifiers.length = q.selection.identifiers.length +
      (1 + (q.joins.flatMap Join.identifiers).length) +
      (q.filters.flatMap fun c => c.condition.identifiers).length := by
    simp only [identifiers, List.length_append, List.length_cons]
    omega
  rw [hlength]
  exact (hselect.append hsource).append hfilters

/-- Quoting of identifiers affects nothing but backticks. Where no literal shows a backtick, deleting
them from the quoted statement gives the bare one, and there are two for every name written. -/
theorem backticks_only (quoteStrings : Bool) (q : Query)
    (h : ∀ v ∈ q.values, '`' ∉ (v.literal quoteStrings).toList) :
    String.ofList ((q.render ⟨true, quoteStrings⟩).toList.filter (· ≠ '`')) =
      q.render ⟨false, quoteStrings⟩ ∧
    (q.render ⟨true, quoteStrings⟩).toList.count '`' = 2 * q.identifiers.length := by
  have hboth := render_backticked quoteStrings q h
  refine ⟨?_, hboth.count⟩
  rw [hboth.bare, String.ofList_toList]

namespace Ticks

def byPosts : Join where
  kind := .left
  table := "po`sts"
  conditions :=
    [⟨.and, .compareColumns ⟨"po`sts", "user"⟩ .equal ⟨"us`ers", "i`d"⟩⟩,
      ⟨.or, .compare ⟨"po`sts", "title"⟩ .less .null⟩]

def users : Query where
  table := "us`ers"
  selection := .columns ["i`d", "`"]
  filters := [⟨.and, .compare "name" .equal (.text "O'Hara")⟩, ⟨.or, .compareColumns "a" .less "b"⟩]
  joins := [byPosts]

/-- Backticks of the names themselves are dropped, also where nothing else is left of a name. -/
theorem thirteen_names_quoted :
    (∀ v ∈ users.values, '`' ∉ (v.literal true).toList) ∧
    String.ofList ((users.render ⟨true, true⟩).toList.filter (· ≠ '`')) =
      users.render ⟨false, true⟩ ∧
    (users.render ⟨true, true⟩).toList.count '`' = 2 * 13 := by
  have hvalues : ∀ v ∈ users.values, '`' ∉ (v.literal true).toList := by decide
  exact ⟨hvalues, backticks_only true users hvalues⟩

end Ticks

end Query
end CheckedSelect
