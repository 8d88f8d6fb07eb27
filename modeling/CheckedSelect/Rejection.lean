import CheckedSelect.Operator
import CheckedSelect.Reference
import CheckedSelect.ValueKind

/-!
# CheckedSelect.Rejection

Why a call is refused. Each cause holds the names that its message needs.

* `Objection` - the ways a query can be invalid as such;
* `Rejection` - all causes, with `Rejection.message`.
-/

namespace CheckedSelect

inductive Objection where
  | emptySelection
  | nonFinite (column : Reference)
  | notQualified (raw : String)
  | foreignTable (found : Reference) (table : String)
  | other (reason : String)
  deriving DecidableEq, Repr

inductive Rejection where
  | invalidQuery (objection : Objection)
  | columnNotFound (table column : String)
  | tableNotFound (table : String)
  /-- `found` is nothing for a null. -/
  | typeMismatch (table column : String) (expected : ValueKind) (found : Option ValueKind)
  | notNullable (table column : String)
  | incompatibleColumns (left leftType right rightType : String)
  | selfComparison (table column : String)
  | selfJoin (table : String)
  | unknownOperator (operator : String)
  deriving DecidableEq, Repr

def Objection.message : Objection → String
  | .emptySelection => "select requires at least one column"
  | .nonFinite column => "non-finite value for column '" ++ column.text ++ "'"
  | .notQualified raw => "expected a qualified 'table.column' reference, got '" ++ raw ++ "'"
  | .foreignTable found table => "'" ++ found.text ++ "' must reference table '" ++ table ++ "'"
  | .other reason => reason

namespace Rejection

def message : Rejection → String
  | .invalidQuery objection => "Invalid query: " ++ objection.message
  | .columnNotFound table column =>
    "Column '" ++ column ++ "' not found in table '" ++ table ++ "'"
  | .tableNotFound table => "Table '" ++ table ++ "' not found"
  | .typeMismatch table column expected found =>
    let foundName := match found with
      | some kind => kind.name
      | none => "null"
    "Column '" ++ table ++ "." ++ column ++ "' expects " ++ expected.name ++ " but got " ++
      foundName
  | .notNullable table column => "Column '" ++ table ++ "." ++ column ++ "' is not nullable"
  | .incompatibleColumns left leftType right rightType =>
    "Cannot compare '" ++ left ++ "' (" ++ leftType ++ ") with '" ++ right ++ "' (" ++
      rightType ++ ")"
  | .selfComparison table column =>
    "Column '" ++ table ++ "." ++ column ++ "' cannot be compared with itself"
  | .selfJoin table => "Table '" ++ table ++ "' cannot be joined with itself"
  | .unknownOperator operator => "Unknown operator '" ++ operator ++ "'"

end Rejection

/-- A reference read from its text, or the objection to it. -/
def Reference.parse (raw : String) : Except Rejection Reference :=
  match Reference.ofText? raw with
  | some r => .ok r
  | none => .error (.invalidQuery (.notQualified raw))

/-- An operator read from its padded symbol; a text that is refused is named without its padding. -/
def Operator.ofText (raw : String) : Except Rejection Operator :=
  (Operator.parse raw).mapError .unknownOperator

end CheckedSelect
