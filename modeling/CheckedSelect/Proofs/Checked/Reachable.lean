import CheckedSelect.Proofs.Checked.Acceptance

/-!
# CheckedSelect.Proofs.Checked.Reachable

The queries that the checked builder can build.

* `Query.WellFormed`: a query all of whose parts are in order for a scope.
* `Reachable`: the builders that accepted calls lead to, from the start of a statement.
* `Builder.Outcome`: what the calls by their names give. These are all the calls
  (`Builder.outcome_iff`), so reachable is what they lead to (`Reachable.iff_named`).
* `reachable_iff_wellFormed`: the queries of reachable builders are the well-formed ones. From
  left to right well-formedness is an invariant of every run; from right to left a well-formed
  query is rebuilt from its own parts, one call for each.
-/

namespace CheckedSelect

namespace Query

structure WellFormed (s : Checked.Scope) (q : Query) : Prop where
  table : q.table = s.table
  selection : q.selection.WellFormed s.definition
  filters : ∀ c ∈ q.filters, c.condition.WellFormed s.definition
  joins : ∀ j ∈ q.joins, j.WellFormed s

theorem wellFormed_start {s : Checked.Scope} : WellFormed s { table := s.table } where
  table := rfl
  selection := trivial
  filters := by simp
  joins := by simp

theorem WellFormed.add {s : Checked.Scope} {q : Query} {a : Addition} (h : q.WellFormed s)
    (ha : a.WellFormed s) : (q.add a).WellFormed s := by
  cases a with
  | selection chosen => exact { h with selection := ha }
  | filter c =>
    refine { h with filters := ?_ }
    intro c' hc'
    rcases List.mem_append.1 hc' with hold | hnew
    · exact h.filters c' hold
    · rw [List.mem_singleton.1 hnew]; exact ha
  | join j =>
    refine { h with joins := ?_ }
    intro j' hj'
    rcases List.mem_append.1 hj' with hold | hnew
    · exact h.joins j' hold
    · rw [List.mem_singleton.1 hnew]; exact ha

/-! ## A query from its parts -/

/-- One addition for each part of the query. -/
def additions (q : Query) : List Addition :=
  .selection q.selection :: (q.filters.map .filter ++ q.joins.map .join)

theorem foldl_add_filters (q : Query) (cs : List (Linked Predicate)) :
    (cs.map Addition.filter).foldl add q = { q with filters := q.filters ++ cs } := by
  induction cs generalizing q with
  | nil => simp
  | cons c cs ih => rw [List.map_cons, List.foldl_cons, ih]; simp [add]

theorem foldl_add_joins (q : Query) (js : List Join) :
    (js.map Addition.join).foldl add q = { q with joins := q.joins ++ js } := by
  induction js generalizing q with
  | nil => simp
  | cons j js ih => rw [List.map_cons, List.foldl_cons, ih]; simp [add]

theorem foldl_add_additions (q : Query) : q.additions.foldl add { table := q.table } = q := by
  rw [additions, List.foldl_cons, List.foldl_append, foldl_add_filters, foldl_add_joins]
  simp [add]

theorem WellFormed.of_mem_additions {s : Checked.Scope} {q : Query} (h : q.WellFormed s) :
    ∀ a ∈ q.additions, a.WellFormed s := by
  intro a ha
  simp only [additions, List.mem_cons, List.mem_append, List.mem_map] at ha
  rcases ha with rfl | ⟨c, hc, rfl⟩ | ⟨j, hj, rfl⟩
  · exact h.selection
  · exact h.filters c hc
  · exact h.joins j hj

end Query

namespace Checked

/-- The builders of a table: the first one, and each one that an accepted call gives. -/
inductive Reachable (schema : Schema) (table : String) : Builder → Prop where
  | start {b : Builder} : schema.query table = .ok b → Reachable schema table b
  | call {b b' : Builder} {step : Step} :
      Reachable schema table b → b.apply step = .ok b' → Reachable schema table b'

namespace Reachable

variable {schema : Schema} {table : String} {b : Builder}

/-- The invariant of a run: the scope stays what it was at the start, and the query is in order
for it. -/
theorem invariant (h : Reachable schema table b) :
    ∃ definition, schema.get? table = some definition ∧ b.scope = ⟨schema, table, definition⟩ ∧
      b.query.WellFormed b.scope := by
  induction h with
  | start h =>
    obtain ⟨definition, hd, rfl⟩ := Schema.query_eq_ok_iff.1 h
    exact ⟨definition, hd, rfl, Query.wellFormed_start⟩
  | call _ h ih =>
    obtain ⟨definition, hd, hscope, hwf⟩ := ih
    obtain ⟨a, ⟨-, ha⟩, rfl⟩ := Builder.apply_eq_ok_iff.1 h
    exact ⟨definition, hd, hscope, hwf.add ha⟩

/-- A refused call stays at the builder that is reached. -/
theorem run (h : Reachable schema table b) (steps : List Step) :
    Reachable schema table (b.run steps) := by
  induction steps generalizing b with
  | nil => exact h
  | cons step rest ih =>
    apply ih
    unfold Builder.attempt
    cases hstep : b.apply step with
    | ok next => exact .call h hstep
    | error _ => exact h

theorem add {a : Addition} (h : Reachable schema table b) (ha : a.WellFormed b.scope) :
    Reachable schema table { b with query := b.query.add a } :=
  .call h (Builder.apply_call ha)

theorem addAll {as : List Addition} (h : Reachable schema table b)
    (has : ∀ a ∈ as, a.WellFormed b.scope) :
    Reachable schema table { b with query := as.foldl Query.add b.query } := by
  induction as generalizing b with
  | nil => exact h
  | cons a as ih =>
    obtain ⟨ha, has⟩ := List.forall_mem_cons.1 has
    exact ih (h.add ha) has

end Reachable

/-! ## Calls by name -/

namespace JoinCall

/-- A call for a condition of a join, by its name. -/
inductive Named : Linked JoinCall → Prop where
  | onValue (column : String) (operator : Operator) (value : Value) :
      Named (onValue column operator value)
  | orOnValue (column : String) (operator : Operator) (value : Value) :
      Named (orOnValue column operator value)
  | onColumn (column : String) (operator : Operator) (other : String) :
      Named (onColumn column operator other)
  | orOnColumn (column : String) (operator : Operator) (other : String) :
      Named (orOnColumn column operator other)

theorem named (c : Linked JoinCall) : Named c := by
  obtain ⟨relation, condition⟩ := c
  cases condition with
  | compare column operator value =>
    cases relation with
    | and => exact .onValue column operator value
    | or => exact .orOnValue column operator value
  | compareColumns column operator other =>
    cases relation with
    | and => exact .onColumn column operator other
    | or => exact .orOnColumn column operator other

end JoinCall

namespace Builder

/-- The outcome of a call, by its name. -/
inductive Outcome (b : Builder) : Except Rejection Builder → Prop where
  | select (names : List String) : Outcome b (b.select names)
  | whereValue (column : String) (operator : Operator) (value : Value) :
      Outcome b (b.whereValue column operator value)
  | orWhereValue (column : String) (operator : Operator) (value : Value) :
      Outcome b (b.orWhereValue column operator value)
  | andWhereValue (column : String) (operator : Operator) (value : Value) :
      Outcome b (b.andWhereValue column operator value)
  | whereNull (column : String) : Outcome b (b.whereNull column)
  | orWhereNull (column : String) : Outcome b (b.orWhereNull column)
  | whereNotNull (column : String) : Outcome b (b.whereNotNull column)
  | orWhereNotNull (column : String) : Outcome b (b.orWhereNotNull column)
  | whereColumn (column : String) (operator : Operator) (other : String) :
      Outcome b (b.whereColumn column operator other)
  | orWhereColumn (column : String) (operator : Operator) (other : String) :
      Outcome b (b.orWhereColumn column operator other)
  | join (table : String) {calls : List (Linked JoinCall)} :
      (∀ c ∈ calls, JoinCall.Named c) → Outcome b (b.join table calls)
  | leftJoin (table : String) {calls : List (Linked JoinCall)} :
      (∀ c ∈ calls, JoinCall.Named c) → Outcome b (b.leftJoin table calls)
  | rightJoin (table : String) {calls : List (Linked JoinCall)} :
      (∀ c ∈ calls, JoinCall.Named c) → Outcome b (b.rightJoin table calls)
  | fullJoin (table : String) {calls : List (Linked JoinCall)} :
      (∀ c ∈ calls, JoinCall.Named c) → Outcome b (b.fullJoin table calls)

variable {b : Builder}

theorem outcome_filter (clause : Linked Predicate) : b.Outcome (b.apply (.filter clause)) := by
  obtain ⟨relation, condition⟩ := clause
  cases condition with
  | compare column operator value =>
    cases relation with
    | and => exact .whereValue column operator value
    | or => exact .orWhereValue column operator value
  | isNull column =>
    cases relation with
    | and => exact .whereNull column
    | or => exact .orWhereNull column
  | isNotNull column =>
    cases relation with
    | and => exact .whereNotNull column
    | or => exact .orWhereNotNull column
  | compareColumns column operator other =>
    cases relation with
    | and => exact .whereColumn column operator other
    | or => exact .orWhereColumn column operator other

theorem outcome_join (kind : JoinKind) (table : String) (calls : List (Linked JoinCall)) :
    b.Outcome (b.apply (.join kind table calls)) := by
  have hnamed : ∀ c ∈ calls, JoinCall.Named c := fun c _ => JoinCall.named c
  cases kind with
  | inner => exact .join table hnamed
  | left => exact .leftJoin table hnamed
  | right => exact .rightJoin table hnamed
  | full => exact .fullJoin table hnamed

/-- There is a name for every call, and every name is that of a call. -/
theorem outcome_iff {result : Except Rejection Builder} :
    b.Outcome result ↔ ∃ step, b.apply step = result := by
  constructor
  · intro h
    cases h <;> exact ⟨_, rfl⟩
  · rintro ⟨step, rfl⟩
    cases step with
    | select names => exact .select names
    | filter clause => exact outcome_filter clause
    | join kind table calls => exact outcome_join kind table calls

end Builder

/-- The builders of a table that the calls lead to by their names. -/
inductive Named (schema : Schema) (table : String) : Builder → Prop where
  | start {b : Builder} : schema.query table = .ok b → Named schema table b
  | call {b next : Builder} : Named schema table b → b.Outcome (.ok next) → Named schema table next

theorem Reachable.iff_named {schema : Schema} {table : String} {b : Builder} :
    Reachable schema table b ↔ Named schema table b := by
  constructor
  · intro h
    induction h with
    | start hstart => exact .start hstart
    | call _ hstep ih => exact .call ih (Builder.outcome_iff.2 ⟨_, hstep⟩)
  · intro h
    induction h with
    | start hstart => exact .start hstart
    | call _ houtcome ih =>
      obtain ⟨step, hstep⟩ := Builder.outcome_iff.1 houtcome
      exact .call ih hstep

/-- The checked builder reaches exactly the well-formed queries of a table. -/
theorem reachable_iff_wellFormed (schema : Schema) (table : String) (q : Query) :
    (∃ b, Reachable schema table b ∧ b.query = q) ↔
      ∃ definition, schema.get? table = some definition ∧
        q.WellFormed ⟨schema, table, definition⟩ := by
  constructor
  · intro h
    obtain ⟨b, hb, rfl⟩ := h
    obtain ⟨definition, hd, hscope, hwf⟩ := hb.invariant
    exact ⟨definition, hd, hscope ▸ hwf⟩
  · intro h
    obtain ⟨definition, hd, hwf⟩ := h
    have hstart : Reachable schema table ⟨⟨schema, table, definition⟩, { table }⟩ :=
      .start (Schema.query_eq_ok_iff.2 ⟨definition, hd, rfl⟩)
    have htable : q.table = table := hwf.table
    refine ⟨_, hstart.addAll hwf.of_mem_additions, ?_⟩
    show q.additions.foldl Query.add { table } = q
    rw [← htable]
    exact q.foldl_add_additions

end Checked
end CheckedSelect
