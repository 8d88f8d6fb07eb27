import CheckedSelect.Typed.SqlType

/-!
# CheckedSelect.Typed.Table

Tables declared with the types of their columns.

* `IsName` - what can be the name of a declared table or column;
* `Table`, `Table.Column` - a table, and a column that is known to belong to it;
* `Table.definition`, `Schema.withTable` - the same table in a schema.
-/

namespace CheckedSelect.Typed

/-- Not empty, and without a dot or an asterisk. -/
def IsName (name : String) : Prop :=
  name ≠ "" ∧ '.' ∉ name.toList ∧ '*' ∉ name.toList

instance (name : String) : Decidable (IsName name) :=
  inferInstanceAs (Decidable (_ ∧ _))

structure Table where
  name : String
  columns : List (String × ColumnType)
  isName : IsName name
  areNames : ∀ c ∈ columns, IsName c.1
  distinct : (columns.map Prod.fst).Nodup

namespace Table

/-- A table with these columns, if all names are in order and no column is declared twice. -/
def declare? (name : String) (columns : List (String × ColumnType)) : Option Table :=
  if h : IsName name ∧ (∀ c ∈ columns, IsName c.1) ∧ (columns.map Prod.fst).Nodup then
    some ⟨name, columns, h.1, h.2.1, h.2.2⟩
  else none

/-- A column of the table, with its type. -/
structure Column (t : Table) where
  name : String
  type : ColumnType
  declared : (name, type) ∈ t.columns

def column? (t : Table) (name : String) : Option t.Column :=
  match h : t.columns.lookup name with
  | some type => some ⟨name, type, mem_of_lookup h⟩
  | none => none

/-- The definition that the declaration amounts to. -/
def definition (t : Table) : TableDef :=
  NameMap.ofList (t.columns.map fun (name, type) => (name, type.definition))

end Table

end CheckedSelect.Typed

namespace CheckedSelect.Schema

/-- Add or replace a declared table. -/
def withTable (s : Schema) (t : Typed.Table) : Schema :=
  s.table t.name t.definition

end CheckedSelect.Schema
