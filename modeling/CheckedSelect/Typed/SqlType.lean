import CheckedSelect.Floating.Round
import CheckedSelect.Schema
import CheckedSelect.Value

/-!
# CheckedSelect.Typed.SqlType

The types that a declared column can have, the values of each, and the literals that stand for
them.

* `SqlType`, `ColumnType` - a type, and a type that may be nullable;
* `ColumnType.Carrier`, `ColumnType.toValue` - the values of a column and the literals they become;
* `ColumnType.AssignableTo` - which columns may stand on the right of an operator;
* `Literal.convert?` - the value that a literal of some type gives for a column, if its type
  converts to that of the column without loss.
-/

namespace CheckedSelect.Typed

inductive SqlType where
  | bool
  | int32
  | int64
  | float32
  | float64
  | text
  | json
  | uuid
  | timestamp
  /-- A moment in universal time, stored as the timestamp shown there. -/
  | instant
  | decimal
  deriving DecidableEq, Repr

namespace SqlType

def kind : SqlType → ValueKind
  | .bool => .boolean
  | .int32 | .int64 => .integer
  | .float32 | .float64 => .float
  | .text => .text
  | .json => .json
  | .uuid => .uuid
  | .timestamp | .instant => .timestamp
  | .decimal => .decimal

@[reducible] def Carrier : SqlType → Type
  | .bool => Bool
  | .int32 => Int32
  | .int64 => Int64
  | .float32 => Binary32
  | .float64 => Binary64
  | .text => String
  | .json => Json
  | .uuid => Uuid
  | .timestamp => Timestamp
  | .instant => Timestamp
  | .decimal => Decimal

def toValue : (t : SqlType) → t.Carrier → Value
  | .bool, b => .bool b
  | .int32, n => .int32 n
  | .int64, n => .int64 n
  | .float32, x => .float32 x
  | .float64, x => .float64 x
  | .text, s => .text s
  | .json, j => .json j
  | .uuid, u => .uuid u
  | .timestamp, t => .timestamp t
  | .instant, t => .timestamp t
  | .decimal, d => .decimal d

end SqlType

structure ColumnType where
  base : SqlType
  nullable : Bool
  deriving DecidableEq, Repr

namespace ColumnType

def required (t : SqlType) : ColumnType := ⟨t, false⟩

def optional (t : SqlType) : ColumnType := ⟨t, true⟩

@[reducible] def Carrier : ColumnType → Type
  | ⟨t, false⟩ => t.Carrier
  | ⟨t, true⟩ => Option t.Carrier

/-- An absent value of a nullable column is a null. -/
def toValue : (t : ColumnType) → t.Carrier → Value
  | ⟨t, false⟩, x => t.toValue x
  | ⟨t, true⟩, some x => t.toValue x
  | ⟨_, true⟩, none => .null

/-- The definition of a column of this type. -/
def definition (t : ColumnType) : ColumnDef := ⟨t.base.kind, t.nullable⟩

/-- A column may be compared with one of the same type, or with one whose type is the nullable
form of its own. -/
def AssignableTo (right left : ColumnType) : Prop :=
  right.base = left.base ∧ (right.nullable = true → left.nullable = true)

instance (right left : ColumnType) : Decidable (right.AssignableTo left) :=
  inferInstanceAs (Decidable (_ ∧ _))

end ColumnType

/-! ## Literals -/

/-- A literal of a type, or the null. -/
inductive Literal where
  | null
  | some (t : SqlType) (x : t.Carrier)

namespace Literal

/-- A float as a document: infinities and NaNs become nulls. -/
def jsonFloat (x : Binary64) : Json :=
  if x.isFinite then .float x else .null

/-- Conversion to a type that is not nullable: from itself, from a narrower number, from a truth
value to the numbers 0 and 1, from an identifier to its text, and to a document from what a document
can hold. -/
def convertBase? : Literal → (t : SqlType) → Option t.Carrier
  | .some .bool b, .bool => b
  | .some .bool b, .int32 => b.toInt32
  | .some .bool b, .int64 => b.toInt64
  | .some .bool b, .float32 => Floating.ofNat .binary32 b.toNat
  | .some .bool b, .float64 => Floating.ofNat .binary64 b.toNat
  | .some .int32 n, .int32 => n
  | .some .int64 n, .int64 => n
  | .some .int32 n, .int64 => n.toInt64
  | .some .float32 x, .float32 => x
  | .some .float64 x, .float64 => x
  | .some .float32 x, .float64 => x.convert .binary64
  | .some .int32 n, .float64 => Floating.ofInt .binary64 n.toInt
  | .some .text s, .text => s
  | .some .uuid u, .text => String.ofList u.text
  | .some .uuid u, .uuid => u
  | .some .timestamp t, .timestamp => t
  | .some .instant t, .instant => t
  | .some .decimal d, .decimal => d
  | .some .int32 n, .decimal => Decimal.make? n.toInt 0
  | .some .int64 n, .decimal => Decimal.make? n.toInt 0
  | .some .json j, .json => j
  | .null, .json => Json.null
  | .some .bool b, .json => Json.bool b
  | .some .int32 n, .json => Json.int n.toInt
  | .some .int64 n, .json => Json.int n.toInt
  | .some .text s, .json => Json.string s
  | .some .float64 x, .json => jsonFloat x
  | .some .float32 x, .json => jsonFloat (x.convert .binary64)
  | _, _ => none

/-- A nullable column takes its own type and the null, and nothing that would first have to be
converted. -/
def convert? (x : Literal) : (t : ColumnType) → Option t.Carrier
  | ⟨t, false⟩ => x.convertBase? t
  | ⟨t, true⟩ =>
    match x with
    | .null => Option.some none
    | .some t' x => if h : t' = t then Option.some (Option.some (h ▸ x)) else none

/-- The literal as it is, at its own width. -/
def toValue : Literal → Value
  | .null => .null
  | .some t x => t.toValue x

end Literal

end CheckedSelect.Typed
