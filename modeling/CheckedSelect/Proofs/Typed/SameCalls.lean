import CheckedSelect.Proofs.Typed.Acceptance
import Mathlib.Data.List.Forall2

/-!
# CheckedSelect.Proofs.Typed.SameCalls

The calls of the two builders that have one name.

* `SameCondition`, `SameCall`: a typed call and the call of the same name at the checked builder,
  which is given the names of the columns and the literals that are stored.
* `sameCall_iff`: these are the calls that `Step.asked` relates, each of them with its own name on
  both sides.
-/

namespace CheckedSelect
namespace Typed

variable {t other : Table}

/-- One condition of a join on both sides. -/
inductive SameCondition : Linked (JoinCall t other) → Linked Checked.JoinCall → Prop where
  | onValue (column : other.Column) (operator : Operator) (value : column.type.Carrier) :
      SameCondition (JoinCall.onValue column operator value)
        (Checked.JoinCall.onValue column.name operator (column.type.toValue value))
  | orOnValue (column : other.Column) (operator : Operator) (value : column.type.Carrier) :
      SameCondition (JoinCall.orOnValue column operator value)
        (Checked.JoinCall.orOnValue column.name operator (column.type.toValue value))
  | onColumn (left : other.Column) (operator : Operator) (right : t.Column)
      (fits : right.type.AssignableTo left.type) :
      SameCondition (JoinCall.onColumn left operator right fits)
        (Checked.JoinCall.onColumn left.reference.text operator right.reference.text)
  | orOnColumn (left : other.Column) (operator : Operator) (right : t.Column)
      (fits : right.type.AssignableTo left.type) :
      SameCondition (JoinCall.orOnColumn left operator right fits)
        (Checked.JoinCall.orOnColumn left.reference.text operator right.reference.text)

theorem sameCondition_iff {c : Linked (JoinCall t other)} {c' : Linked Checked.JoinCall} :
    SameCondition c c' ↔ c.map JoinCall.asked = c' := by
  constructor
  · intro h
    cases h <;> rfl
  · rintro rfl
    obtain ⟨relation, condition⟩ := c
    cases condition with
    | compare column operator value =>
      cases relation with
      | and => exact .onValue column operator value
      | or => exact .orOnValue column operator value
    | compareColumns left operator right fits =>
      cases relation with
      | and => exact .onColumn left operator right fits
      | or => exact .orOnColumn left operator right fits

theorem sameConditions_iff {calls : List (Linked (JoinCall t other))}
    {calls' : List (Linked Checked.JoinCall)} :
    List.Forall₂ SameCondition calls calls' ↔ calls.map (Linked.map JoinCall.asked) = calls' := by
  have hpointwise : calls.map (Linked.map JoinCall.asked) = calls' ↔
      List.Forall₂ (fun c c' => c.map JoinCall.asked = c') calls calls' := by
    rw [← List.forall₂_map_left_iff, List.forall₂_eq_eq_eq]
  rw [hpointwise]
  constructor
  · intro h
    exact h.imp fun _ _ => sameCondition_iff.1
  · intro h
    exact h.imp fun _ _ => sameCondition_iff.2

/-- One call on both sides: the typed builder after it, and its outcome at the checked builder. -/
inductive SameCall (b : Builder t) (d : Checked.Builder) :
    Builder t → Except Rejection Checked.Builder → Prop where
  | selectAll : SameCall b d (b.select .all) (d.select ["*"])
  | select (first : t.Column) (rest : List t.Column) :
      SameCall b d (b.select (.columns first rest))
        (d.select ((first :: rest).map Table.Column.name))
  | whereValue (column : t.Column) (operator : Operator) (value : column.type.Carrier) :
      SameCall b d (b.whereValue column operator value)
        (d.whereValue column.name operator (column.type.toValue value))
  | orWhereValue (column : t.Column) (operator : Operator) (value : column.type.Carrier) :
      SameCall b d (b.orWhereValue column operator value)
        (d.orWhereValue column.name operator (column.type.toValue value))
  | andWhereValue (column : t.Column) (operator : Operator) (value : column.type.Carrier) :
      SameCall b d (b.andWhereValue column operator value)
        (d.andWhereValue column.name operator (column.type.toValue value))
  | whereNull (column : t.Column) (nullable : column.type.nullable = true) :
      SameCall b d (b.whereNull column nullable) (d.whereNull column.name)
  | orWhereNull (column : t.Column) (nullable : column.type.nullable = true) :
      SameCall b d (b.orWhereNull column nullable) (d.orWhereNull column.name)
  | whereNotNull (column : t.Column) (nullable : column.type.nullable = true) :
      SameCall b d (b.whereNotNull column nullable) (d.whereNotNull column.name)
  | orWhereNotNull (column : t.Column) (nullable : column.type.nullable = true) :
      SameCall b d (b.orWhereNotNull column nullable) (d.orWhereNotNull column.name)
  | whereColumn (left : t.Column) (operator : Operator) (right : t.Column)
      (distinct : left.name ≠ right.name) (fits : right.type.AssignableTo left.type) :
      SameCall b d (b.whereColumn left operator right distinct fits)
        (d.whereColumn left.name operator right.name)
  | orWhereColumn (left : t.Column) (operator : Operator) (right : t.Column)
      (distinct : left.name ≠ right.name) (fits : right.type.AssignableTo left.type) :
      SameCall b d (b.orWhereColumn left operator right distinct fits)
        (d.orWhereColumn left.name operator right.name)
  | join (other : Table) (distinct : other.name ≠ t.name)
      {calls : List (Linked (JoinCall t other))} {calls' : List (Linked Checked.JoinCall)} :
      List.Forall₂ SameCondition calls calls' →
      SameCall b d (b.join other distinct calls) (d.join other.name calls')
  | leftJoin (other : Table) (distinct : other.name ≠ t.name)
      {calls : List (Linked (JoinCall t other))} {calls' : List (Linked Checked.JoinCall)} :
      List.Forall₂ SameCondition calls calls' →
      SameCall b d (b.leftJoin other distinct calls) (d.leftJoin other.name calls')
  | rightJoin (other : Table) (distinct : other.name ≠ t.name)
      {calls : List (Linked (JoinCall t other))} {calls' : List (Linked Checked.JoinCall)} :
      List.Forall₂ SameCondition calls calls' →
      SameCall b d (b.rightJoin other distinct calls) (d.rightJoin other.name calls')
  | fullJoin (other : Table) (distinct : other.name ≠ t.name)
      {calls : List (Linked (JoinCall t other))} {calls' : List (Linked Checked.JoinCall)} :
      List.Forall₂ SameCondition calls calls' →
      SameCall b d (b.fullJoin other distinct calls) (d.fullJoin other.name calls')

variable {b next : Builder t} {d : Checked.Builder} {result : Except Rejection Checked.Builder}

theorem SameCall.exists_step (h : SameCall b d next result) :
    ∃ step : Step t, b.apply step = next ∧ d.apply step.asked = result := by
  cases h with
  | selectAll => exact ⟨.select .all, rfl, rfl⟩
  | select first rest => exact ⟨.select (.columns first rest), rfl, rfl⟩
  | join other distinct hcalls | leftJoin other distinct hcalls | rightJoin other distinct hcalls
  | fullJoin other distinct hcalls =>
    cases sameConditions_iff.1 hcalls
    exact ⟨.join _ other distinct _, rfl, rfl⟩
  | _ => exact ⟨.filter ⟨_, _⟩, rfl, rfl⟩

theorem sameCall_filter (clause : Linked (Predicate t)) :
    SameCall b d (b.apply (.filter clause)) (d.apply (Step.asked (.filter clause))) := by
  obtain ⟨relation, condition⟩ := clause
  cases condition with
  | compare column operator value =>
    cases relation with
    | and => exact .whereValue column operator value
    | or => exact .orWhereValue column operator value
  | isNull column nullable =>
    cases relation with
    | and => exact .whereNull column nullable
    | or => exact .orWhereNull column nullable
  | isNotNull column nullable =>
    cases relation with
    | and => exact .whereNotNull column nullable
    | or => exact .orWhereNotNull column nullable
  | compareColumns left operator right distinct fits =>
    cases relation with
    | and => exact .whereColumn left operator right distinct fits
    | or => exact .orWhereColumn left operator right distinct fits

theorem sameCall_join (kind : JoinKind) (other : Table) (distinct : other.name ≠ t.name)
    (calls : List (Linked (JoinCall t other))) :
    SameCall b d (b.apply (.join kind other distinct calls))
      (d.apply (Step.asked (.join kind other distinct calls))) := by
  have hcalls : List.Forall₂ SameCondition calls (calls.map (Linked.map JoinCall.asked)) :=
    sameConditions_iff.2 rfl
  cases kind with
  | inner => exact .join other distinct hcalls
  | left => exact .leftJoin other distinct hcalls
  | right => exact .rightJoin other distinct hcalls
  | full => exact .fullJoin other distinct hcalls

/-- A typed call is asked for at the checked builder by its own name. -/
theorem sameCall_iff :
    SameCall b d next result ↔
      ∃ step : Step t, b.apply step = next ∧ d.apply step.asked = result := by
  refine ⟨SameCall.exists_step, ?_⟩
  rintro ⟨step, rfl, rfl⟩
  cases step with
  | select selection =>
    cases selection with
    | all => exact .selectAll
    | columns first rest => exact .select first rest
  | filter clause => exact sameCall_filter clause
  | join kind other distinct calls => exact sameCall_join kind other distinct calls

end Typed
end CheckedSelect
