import CheckedSelect.Checked.Builder
import CheckedSelect.Proofs.Checked.Rules

/-!
# CheckedSelect.Proofs.Checked.Acceptance

What a whole call of the checked builder adds to the query.

* `Addition.WellFormed`: the additions that are in order for a scope.
* `Addition.call`: the call that asks for an addition.
* `accept_eq_ok_iff`: a call is accepted as an addition exactly when it is the call for that
  addition and the addition is in order. So acceptance undoes `Addition.call`.
* `apply_eq_ok_iff`: the same for a builder, with the query after the call.
-/

namespace CheckedSelect

/-! ## Additions in order -/

namespace Selection

/-- A list of columns is not empty, and a lone asterisk is no list. -/
def WellFormed (definition : TableDef) : Selection → Prop
  | .all => True
  | .columns names =>
    names ≠ [] ∧ names ≠ ["*"] ∧ ∀ name ∈ names, ∃ d, definition.get? name = some d

/-- The names that ask for this selection. -/
def names : Selection → List String
  | .all => ["*"]
  | .columns names => names

end Selection

/-- The joined table is another table of the schema, and every condition is in order for it. -/
def Join.WellFormed (s : Checked.Scope) (j : Join) : Prop :=
  j.table ≠ s.table ∧ ∃ definition, s.schema.get? j.table = some definition ∧
    ∀ c ∈ j.conditions, c.condition.WellFormed s j.table definition

namespace Addition

def WellFormed (s : Checked.Scope) : Addition → Prop
  | .selection chosen => chosen.WellFormed s.definition
  | .filter c => c.condition.WellFormed s.definition
  | .join j => j.WellFormed s

/-- The call that asks for this addition. -/
def call : Addition → Checked.Step
  | .selection chosen => .select chosen.names
  | .filter c => .filter c
  | .join j => .join j.kind j.table (j.conditions.map (Linked.map JoinPredicate.call))

end Addition

/-! ## Acceptance -/

theorem Schema.find_eq_ok_iff {s : Schema} {table : String} {definition : TableDef} :
    s.find table = .ok definition ↔ s.get? table = some definition := by
  unfold Schema.find
  cases s.get? table with
  | none => simp
  | some d => simp

theorem Schema.find_eq_error_iff {s : Schema} {table : String} {cause : Rejection} :
    s.find table = .error cause ↔ s.get? table = none ∧ cause = .tableNotFound table := by
  unfold Schema.find
  cases s.get? table with
  | none => simp [eq_comm]
  | some d => simp

namespace Checked

/-- The definition that a builder holds answers as the schema does. -/
theorem lookup_eq_column {schema : Schema} {table : String} {definition : TableDef}
    (h : schema.get? table = some definition) (column : String) :
    lookup definition table column = schema.column table column := by
  rw [Schema.column, Schema.find, h]
  rfl

namespace Scope

variable {s : Scope}

theorem checkColumns_eq_ok_iff {names : List String} {u : Unit} :
    s.checkColumns names = .ok u ↔ ∀ name ∈ names, ∃ d, s.definition.get? name = some d := by
  induction names with
  | nil => simp [checkColumns]
  | cons name rest ih =>
    rw [checkColumns, bind_eq_ok_iff, List.forall_mem_cons]
    constructor
    · intro h
      obtain ⟨d, hd, h⟩ := h
      exact ⟨⟨d, column_eq_ok_iff.1 hd⟩, ih.1 h⟩
    · intro h
      obtain ⟨⟨d, hd⟩, h⟩ := h
      exact ⟨d, column_eq_ok_iff.2 hd, ih.2 h⟩

theorem selection_eq_ok_iff {names : List String} {selection : Selection} :
    s.selection names = .ok selection ↔
      names = selection.names ∧ selection.WellFormed s.definition := by
  unfold Scope.selection
  by_cases hempty : names = []
  · subst hempty
    constructor
    · intro h; cases h
    · intro h
      obtain ⟨h, hwf⟩ := h
      cases selection with
      | all => cases h
      | columns _ => exact absurd h.symm hwf.1
  · rw [if_neg (by simpa using hempty)]
    by_cases hstar : names = ["*"]
    · rw [if_pos hstar]
      constructor
      · intro h; cases h; exact ⟨hstar, trivial⟩
      · intro h
        obtain ⟨h, hwf⟩ := h
        cases selection with
        | all => rfl
        | columns _ => exact absurd (h.symm.trans hstar) hwf.2.1
    · rw [if_neg hstar, bind_eq_ok_iff]
      constructor
      · intro h
        obtain ⟨u, hu, h⟩ := h
        cases h
        exact ⟨rfl, hempty, hstar, checkColumns_eq_ok_iff.1 hu⟩
      · intro h
        obtain ⟨h, hwf⟩ := h
        cases selection with
        | all => exact absurd h hstar
        | columns _ =>
          cases h
          exact ⟨(), checkColumns_eq_ok_iff.2 hwf.2.2, rfl⟩

theorem joinConditions_eq_ok_iff {table : String} {definition : TableDef}
    {calls : List (Linked JoinCall)} {conditions : List (Linked JoinPredicate)} :
    s.joinConditions table definition calls = .ok conditions ↔
      calls = conditions.map (Linked.map JoinPredicate.call) ∧
        ∀ c ∈ conditions, c.condition.WellFormed s table definition := by
  unfold joinConditions
  induction calls generalizing conditions with
  | nil =>
    rw [List.mapM_nil]
    constructor
    · intro h; cases h; exact ⟨rfl, by simp⟩
    · intro h
      obtain ⟨h, -⟩ := h
      rw [List.map_eq_nil_iff.1 h.symm]
      rfl
  | cons c rest ih =>
    rw [List.mapM_cons, bind_eq_ok_iff]
    simp only [bind_eq_ok_iff, joinPredicate_eq_ok_iff]
    constructor
    · intro h
      obtain ⟨_, ⟨p, ⟨hc, hp⟩, hl⟩, ps, hps, h⟩ := h
      cases hl
      cases h
      obtain ⟨hrest, hwf⟩ := ih.1 hps
      refine ⟨?_, List.forall_mem_cons.2 ⟨hp, hwf⟩⟩
      rw [hrest, List.map_cons, Linked.map, ← hc]
    · intro h
      obtain ⟨h, hwf⟩ := h
      cases conditions with
      | nil => cases h
      | cons l ls =>
        cases h
        obtain ⟨hl, hls⟩ := List.forall_mem_cons.1 hwf
        exact ⟨l, ⟨l.condition, ⟨rfl, hl⟩, rfl⟩, ls, ih.2 ⟨rfl, hls⟩, rfl⟩

theorem joinOf_eq_ok_iff {kind : JoinKind} {table : String} {calls : List (Linked JoinCall)}
    {j : Join} :
    s.joinOf kind table calls = .ok j ↔
      (kind = j.kind ∧ table = j.table ∧ calls = j.conditions.map (Linked.map JoinPredicate.call)) ∧
        j.WellFormed s := by
  unfold joinOf
  by_cases hself : table = s.table
  · rw [if_pos hself]
    constructor
    · intro h; cases h
    · intro h
      obtain ⟨⟨-, htable, -⟩, hne, -⟩ := h
      exact absurd (htable ▸ hself) hne
  · rw [if_neg hself]
    simp only [bind_eq_ok_iff, Schema.find_eq_ok_iff, joinConditions_eq_ok_iff]
    constructor
    · intro h
      obtain ⟨d, hd, cs, ⟨hcalls, hcs⟩, h⟩ := h
      cases h
      exact ⟨⟨rfl, rfl, hcalls⟩, hself, d, hd, hcs⟩
    · intro h
      obtain ⟨⟨rfl, rfl, hcalls⟩, -, d, hd, hcs⟩ := h
      exact ⟨d, hd, j.conditions, ⟨hcalls, hcs⟩, rfl⟩

theorem accept_eq_ok_iff {step : Step} {a : Addition} :
    s.accept step = .ok a ↔ step = a.call ∧ a.WellFormed s := by
  cases step with
  | select names =>
    simp only [accept, map_eq_ok_iff, selection_eq_ok_iff]
    constructor
    · intro h
      obtain ⟨selection, ⟨rfl, hwf⟩, rfl⟩ := h
      exact ⟨rfl, hwf⟩
    · intro h
      obtain ⟨hcall, hwf⟩ := h
      cases a with
      | selection selection =>
        cases hcall
        exact ⟨selection, ⟨rfl, hwf⟩, rfl⟩
      | filter _ => cases hcall
      | join _ => cases hcall
  | filter clause =>
    simp only [accept, bind_eq_ok_iff, checkPredicate_eq_ok_iff]
    constructor
    · intro h
      obtain ⟨u, hwf, h⟩ := h
      cases h
      exact ⟨rfl, hwf⟩
    · intro h
      obtain ⟨hcall, hwf⟩ := h
      cases a with
      | filter c =>
        cases hcall
        exact ⟨(), hwf, rfl⟩
      | selection _ => cases hcall
      | join _ => cases hcall
  | join kind table calls =>
    simp only [accept, map_eq_ok_iff, joinOf_eq_ok_iff]
    constructor
    · intro h
      obtain ⟨j, ⟨⟨rfl, rfl, rfl⟩, hwf⟩, rfl⟩ := h
      exact ⟨rfl, hwf⟩
    · intro h
      obtain ⟨hcall, hwf⟩ := h
      cases a with
      | join j =>
        cases hcall
        exact ⟨j, ⟨⟨rfl, rfl, rfl⟩, hwf⟩, rfl⟩
      | selection _ => cases hcall
      | filter _ => cases hcall

end Scope

namespace Builder

theorem apply_eq_ok_iff {b b' : Builder} {step : Step} :
    b.apply step = .ok b' ↔
      ∃ a, (step = a.call ∧ a.WellFormed b.scope) ∧ b' = { b with query := b.query.add a } := by
  rw [apply, bind_eq_ok_iff]
  simp only [Scope.accept_eq_ok_iff]
  constructor
  · intro h
    obtain ⟨a, ha, h⟩ := h
    cases h
    exact ⟨a, ha, rfl⟩
  · intro h
    obtain ⟨a, ha, rfl⟩ := h
    exact ⟨a, ha, rfl⟩

/-- Every addition in order can be asked for. -/
theorem apply_call {b : Builder} {a : Addition} (h : a.WellFormed b.scope) :
    b.apply a.call = .ok { b with query := b.query.add a } :=
  apply_eq_ok_iff.2 ⟨a, ⟨rfl, h⟩, rfl⟩

end Builder
end Checked

/-- The start of a statement: the table is one of the schema, and nothing has been added. -/
theorem Schema.query_eq_ok_iff {s : Schema} {table : String} {b : Checked.Builder} :
    s.query table = .ok b ↔
      ∃ definition, s.get? table = some definition ∧
        b = ⟨⟨s, table, definition⟩, { table }⟩ := by
  rw [Schema.query, bind_eq_ok_iff]
  simp only [Schema.find_eq_ok_iff]
  constructor
  · intro h
    obtain ⟨d, hd, h⟩ := h
    cases h
    exact ⟨d, hd, rfl⟩
  · intro h
    obtain ⟨d, hd, rfl⟩ := h
    exact ⟨d, hd, rfl⟩

end CheckedSelect
