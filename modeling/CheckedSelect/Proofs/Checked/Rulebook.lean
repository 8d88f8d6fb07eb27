import CheckedSelect.Checked.Builder
import CheckedSelect.Proofs.Reference

/-!
# CheckedSelect.Proofs.Checked.Rulebook

The rules of the calls, said without the builder.

* `Rule`: a rule of a call, as the causes that report it broken.
* `Step.rules`: the rules of a call in the order in which they count, over the schema and the name
  of the builder's table.
* `FirstBroken`: the causes that report the first broken rule of a list.
-/

namespace CheckedSelect
namespace Checked

/-! ## Rules -/

/-- A rule by its breaches: the causes that report it, if it is broken. -/
abbrev Rule : Type := Rejection → Prop

namespace Rule

def Broken (rule : Rule) : Prop := ∃ cause, rule cause

variable (schema : Schema)

def someColumn (names : List String) : Rule := fun cause =>
  names = [] ∧ cause = .invalidQuery .emptySelection

def declared (table column : String) : Rule := fun cause =>
  (¬ ∃ d, schema.column table column = .ok d) ∧ cause = .columnNotFound table column

def finite (table column : String) (v : Value) : Rule := fun cause =>
  v.isFinite = false ∧ cause = .invalidQuery (.nonFinite ⟨table, column⟩)

/-- A null goes with a nullable column, any other value with a column of its kind, and an integer
of 32 bits with a float column too. -/
def typed (table column : String) (v : Value) : Rule := fun cause =>
  ∃ d, schema.column table column = .ok d ∧
    ¬ ((v = .null ∧ d.nullable = true) ∨ v.kind? = some d.kind ∨
      ((∃ n, v = .int32 n) ∧ d.kind = .float)) ∧
    cause = .typeMismatch table column d.kind v.kind?

def nullable (table column : String) : Rule := fun cause =>
  ∃ d, schema.column table column = .ok d ∧ d.nullable = false ∧
    cause = .notNullable table column

def different (table left right : String) : Rule := fun cause =>
  left = right ∧ cause = .selfComparison table left

def comparable (left right : Reference) : Rule := fun cause =>
  ∃ l r, schema.column left.table left.column = .ok l ∧
    schema.column right.table right.column = .ok r ∧
    ¬ (l.kind = r.kind ∧ (r.nullable = true → l.nullable = true)) ∧
    cause = .incompatibleColumns left.text l.text right.text r.text

def otherTable (table joined : String) : Rule := fun cause =>
  joined = table ∧ cause = .selfJoin joined

def known (table : String) : Rule := fun cause =>
  schema.get? table = none ∧ cause = .tableNotFound table

def qualified (raw : String) : Rule := fun cause =>
  (¬ ∃ r : Reference, raw = r.text ∧ r.IsReadable) ∧ cause = .invalidQuery (.notQualified raw)

/-- A rule about the reference that a text stands for. -/
def ofReference (raw : String) (rule : Reference → Rule) : Rule := fun cause =>
  ∃ r : Reference, (raw = r.text ∧ r.IsReadable) ∧ rule r cause

def inTable (table : String) (r : Reference) : Rule := fun cause =>
  r.table ≠ table ∧ cause = .invalidQuery (.foreignTable r table)

end Rule

open Rule

/-- The rules for a value beside a column of a table. -/
def valueRules (schema : Schema) (table column : String) (v : Value) : List Rule :=
  [declared schema table column, finite table column v, typed schema table column v]

/-- The rules of a filter on a table. -/
def predicateRules (schema : Schema) (table : String) : Predicate → List Rule
  | .compare column _ value => valueRules schema table column value
  | .isNull column => [declared schema table column, nullable schema table column]
  | .isNotNull column => [declared schema table column, nullable schema table column]
  | .compareColumns left _ right =>
    [declared schema table left, declared schema table right, different table left right,
      comparable schema ⟨table, left⟩ ⟨table, right⟩]

/-- The rules of one condition of a join of `table` with `joined`. -/
def joinCallRules (schema : Schema) (table joined : String) : JoinCall → List Rule
  | .compare column _ value => valueRules schema joined column value
  | .compareColumns left _ right =>
    [qualified left, qualified right,
      ofReference left (inTable joined), ofReference right (inTable table),
      ofReference left fun l => declared schema l.table l.column,
      ofReference right fun r => declared schema r.table r.column,
      ofReference left fun l => ofReference right fun r => comparable schema l r]

/-- The rules of a call on a builder of `table`, in the order in which they count. -/
def Step.rules (schema : Schema) (table : String) : Step → List Rule
  | .select names =>
    someColumn names :: if names = ["*"] then [] else names.map (declared schema table)
  | .filter clause => predicateRules schema table clause.condition
  | .join _ joined calls =>
    otherTable table joined :: known schema joined ::
      calls.flatMap fun c => joinCallRules schema table joined c.condition

/-! ## The first broken rule -/

inductive FirstBroken : List Rule → Rejection → Prop where
  | here {rule : Rule} {rest : List Rule} {cause : Rejection} :
      rule cause → FirstBroken (rule :: rest) cause
  | later {rule : Rule} {rest : List Rule} {cause : Rejection} :
      ¬ rule.Broken → FirstBroken rest cause → FirstBroken (rule :: rest) cause

theorem exists_firstBroken_iff {rules : List Rule} :
    (∃ cause, FirstBroken rules cause) ↔ ∃ rule ∈ rules, rule.Broken := by
  induction rules with
  | nil =>
    constructor
    · rintro ⟨_, h⟩
      cases h
    · rintro ⟨_, h, _⟩
      cases h
  | cons rule rest ih =>
    constructor
    · rintro ⟨cause, h⟩
      cases h with
      | here h => exact ⟨rule, List.mem_cons_self, cause, h⟩
      | later _ h =>
        obtain ⟨r, hr, hbroken⟩ := ih.1 ⟨cause, h⟩
        exact ⟨r, List.mem_cons_of_mem _ hr, hbroken⟩
    · rintro ⟨r, hr, hbroken⟩
      by_cases hrule : rule.Broken
      · obtain ⟨cause, h⟩ := hrule
        exact ⟨cause, .here h⟩
      · cases hr with
        | head => exact absurd hbroken hrule
        | tail _ hr =>
          obtain ⟨cause, h⟩ := ih.2 ⟨r, hr, hbroken⟩
          exact ⟨cause, .later hrule h⟩

theorem firstBroken_append_iff {rules more : List Rule} {cause : Rejection} :
    FirstBroken (rules ++ more) cause ↔
      FirstBroken rules cause ∨ (¬ ∃ c, FirstBroken rules c) ∧ FirstBroken more cause := by
  induction rules with
  | nil =>
    constructor
    · intro h
      refine .inr ⟨?_, h⟩
      rintro ⟨_, hc⟩
      cases hc
    · rintro (h | ⟨-, h⟩)
      · cases h
      · exact h
  | cons rule rest ih =>
    constructor
    · intro h
      cases h with
      | here h => exact .inl (.here h)
      | later hrule h =>
        rcases ih.1 h with h | ⟨hrest, h⟩
        · exact .inl (.later hrule h)
        · refine .inr ⟨?_, h⟩
          rintro ⟨c, hc⟩
          cases hc with
          | here hc => exact hrule ⟨c, hc⟩
          | later _ hc => exact hrest ⟨c, hc⟩
    · rintro (h | ⟨hnone, h⟩)
      · cases h with
        | here h => exact .here h
        | later hrule h => exact .later hrule (ih.2 (.inl h))
      · have hrule : ¬ rule.Broken := fun ⟨c, hc⟩ => hnone ⟨c, .here hc⟩
        exact .later hrule (ih.2 (.inr ⟨fun ⟨c, hc⟩ => hnone ⟨c, .later hrule hc⟩, h⟩))

end Checked
end CheckedSelect
