import CheckedSelect.NameMap
import CheckedSelect.Rejection

/-!
# CheckedSelect.Schema

Definitions of columns, tables and whole schemas. Tables and columns are found by name, and a
definition given later replaces an earlier one of the same name as a whole.

* `ColumnDef`, `TableDef`, `Schema`;
* `Schema.find`, `Schema.column` - look-ups that say what is missing;
* `ColumnDef.Comparable` - when two columns may stand on the two sides of an operator.
-/

namespace CheckedSelect

structure ColumnDef where
  kind : ValueKind
  nullable : Bool := false
  deriving DecidableEq, Repr

abbrev TableDef : Type := NameMap ColumnDef

abbrev Schema : Type := NameMap TableDef

namespace ColumnDef

def text (d : ColumnDef) : String :=
  if d.nullable then "nullable " ++ d.kind.name else d.kind.name

/-- The right column has the kind of the left one, and is nullable only if the left one is. -/
def Comparable (left right : ColumnDef) : Prop :=
  left.kind = right.kind ∧ (right.nullable = true → left.nullable = true)

instance (left right : ColumnDef) : Decidable (left.Comparable right) :=
  inferInstanceAs (Decidable (_ ∧ _))

end ColumnDef

namespace TableDef

def empty : TableDef := NameMap.empty

/-- Add or replace a column that is never null. -/
def column (t : TableDef) (name : String) (kind : ValueKind) : TableDef :=
  t.insert name ⟨kind, false⟩

/-- Add or replace a column that may be null. -/
def nullableColumn (t : TableDef) (name : String) (kind : ValueKind) : TableDef :=
  t.insert name ⟨kind, true⟩

end TableDef

namespace Schema

def empty : Schema := NameMap.empty

/-- Add or replace a table. -/
def table (s : Schema) (name : String) (definition : TableDef) : Schema :=
  s.insert name definition

def find (s : Schema) (table : String) : Except Rejection TableDef :=
  match s.get? table with
  | some definition => .ok definition
  | none => .error (.tableNotFound table)

def column (s : Schema) (table column : String) : Except Rejection ColumnDef :=
  match s.find table with
  | .error e => .error e
  | .ok definition =>
    match definition.get? column with
    | some d => .ok d
    | none => .error (.columnNotFound table column)

end Schema

end CheckedSelect
