import CheckedSelect.Query
import CheckedSelect.Schema

/-!
# CheckedSelect.Checked.Rules

The rules of a single call, each with the cause of its rejection. Where a call has several rules
they are tried in order, and the first broken one is reported.

* `lookup`, `checkValue`, `checkComparable`, `checkTable` - one rule each, or one chain of rules;
* `Scope` - what the calls of one builder are checked against;
* `Scope.checkPredicate`, `Scope.joinPredicate` - the rules of a filter and of a join condition.
-/

namespace CheckedSelect

/-- A value fits a column when it has the column's kind. A null fits every nullable column, and
an integer of 32 bits also fits a float column. -/
def Value.Fits (v : Value) (d : ColumnDef) : Prop :=
  match v with
  | .null => d.nullable = true
  | .int32 _ => d.kind = .integer ∨ d.kind = .float
  | v => v.kind? = some d.kind

instance (v : Value) (d : ColumnDef) : Decidable (v.Fits d) := by
  unfold Value.Fits
  split <;> infer_instance

namespace Checked

def lookup (definition : TableDef) (table column : String) : Except Rejection ColumnDef :=
  match definition.get? column with
  | some d => .ok d
  | none => .error (.columnNotFound table column)

def checkValue (table column : String) (d : ColumnDef) (v : Value) : Except Rejection Unit :=
  if !v.isFinite then .error (.invalidQuery (.nonFinite ⟨table, column⟩))
  else if v.Fits d then .ok ()
  else .error (.typeMismatch table column d.kind v.kind?)

def checkComparable (left : Reference) (leftDef : ColumnDef) (right : Reference)
    (rightDef : ColumnDef) : Except Rejection Unit :=
  if leftDef.Comparable rightDef then .ok ()
  else .error (.incompatibleColumns left.text leftDef.text right.text rightDef.text)

def checkTable (r : Reference) (table : String) : Except Rejection Unit :=
  if r.table = table then .ok () else .error (.invalidQuery (.foreignTable r table))

/-- A schema and one of its tables. -/
structure Scope where
  schema : Schema
  table : String
  definition : TableDef

/-- A condition of a join as it is asked for: columns of the joined table by their names, or two
references still to be read. -/
inductive JoinCall where
  | compare (column : String) (operator : Operator) (value : Value)
  | compareColumns (left : String) (operator : Operator) (right : String)
  deriving Repr

namespace Scope

def column (s : Scope) (name : String) : Except Rejection ColumnDef :=
  lookup s.definition s.table name

def checkNullable (s : Scope) (column : String) : Except Rejection Unit := do
  let d ← s.column column
  if d.nullable then .ok () else .error (.notNullable s.table column)

def checkPredicate (s : Scope) : Predicate → Except Rejection Unit
  | .compare column _ value => do
    let d ← s.column column
    checkValue s.table column d value
  | .isNull column => s.checkNullable column
  | .isNotNull column => s.checkNullable column
  | .compareColumns left _ right => do
    let leftDef ← s.column left
    let rightDef ← s.column right
    if left = right then .error (.selfComparison s.table left)
    else checkComparable ⟨s.table, left⟩ leftDef ⟨s.table, right⟩ rightDef

/-- A condition of a join with `table`, which is defined as `definition`. -/
def joinPredicate (s : Scope) (table : String) (definition : TableDef) :
    JoinCall → Except Rejection JoinPredicate
  | .compare column operator value => do
    let d ← lookup definition table column
    checkValue table column d value
    return .compare ⟨table, column⟩ operator value
  | .compareColumns left operator right => do
    let left ← Reference.parse left
    let right ← Reference.parse right
    checkTable left table
    checkTable right s.table
    let leftDef ← lookup definition table left.column
    let rightDef ← s.column right.column
    checkComparable left leftDef right rightDef
    return .compareColumns left operator right

end Scope

end Checked

end CheckedSelect
