import CheckedSelect.Decimal
import CheckedSelect.Json.Printer
import CheckedSelect.Timestamp
import CheckedSelect.Uuid
import CheckedSelect.ValueKind

/-!
# CheckedSelect.Value

Literals of a statement.

* `Value` - the literals, with their widths;
* `Value.kind?` - the kind of column a literal belongs to; a null belongs to none;
* `Value.literal` - a literal as it stands in a statement;
* `Value.agrees` - equality: widths differ, floats and decimals compare as numbers.
-/

namespace CheckedSelect

inductive Value where
  | null
  | bool (b : Bool)
  | int32 (n : Int32)
  | int64 (n : Int64)
  | float32 (x : Binary32)
  | float64 (x : Binary64)
  | text (s : String)
  | json (j : Json)
  | uuid (u : Uuid)
  | timestamp (t : Timestamp)
  | decimal (d : Decimal)
  deriving Repr, Inhabited

namespace Value

def isNull : Value → Bool
  | .null => true
  | _ => false

/-- Infinities and NaNs are the only values without a literal of their own. -/
def isFinite : Value → Bool
  | .float32 x => x.isFinite
  | .float64 x => x.isFinite
  | _ => true

def kind? : Value → Option ValueKind
  | .null => none
  | .bool _ => some .boolean
  | .int32 _ | .int64 _ => some .integer
  | .float32 _ | .float64 _ => some .float
  | .text _ => some .text
  | .json _ => some .json
  | .uuid _ => some .uuid
  | .timestamp _ => some .timestamp
  | .decimal _ => some .decimal

/-! ## Text -/

/-- The text of a literal, without quotes. -/
def body : Value → List Char
  | .null => "NULL".toList
  | .bool b => Json.boolText b
  | .int32 n => Json.intText n.toInt
  | .int64 n => Json.intText n.toInt
  | .float32 x => FloatLayout.sql.write x
  | .float64 x => FloatLayout.sql.write x
  | .text s => s.toList
  | .json j => j.compact
  | .uuid u => u.text
  | .timestamp t => t.text ' '
  | .decimal d => d.text

/-- The literals that go between quotes. -/
def isStringLike : Value → Bool
  | .text _ | .json _ | .uuid _ | .timestamp _ => true
  | _ => false

/-- A text between single quotes, with those inside it doubled. -/
def delimited (text : List Char) : List Char :=
  '\'' :: text.flatMap (fun c => if c = '\'' then ['\'', '\''] else [c]) ++ ['\'']

def literal (quoteStrings : Bool) (v : Value) : String :=
  String.ofList (if quoteStrings && v.isStringLike then delimited v.body else v.body)

/-! ## Equality -/

def agrees : Value → Value → Bool
  | .null, .null => true
  | .bool a, .bool b => a == b
  | .int32 a, .int32 b => a == b
  | .int64 a, .int64 b => a == b
  | .float32 a, .float32 b => a.agrees b
  | .float64 a, .float64 b => a.agrees b
  | .text a, .text b => a == b
  | .json a, .json b => a.agrees b
  | .uuid a, .uuid b => a == b
  | .timestamp a, .timestamp b => a == b
  | .decimal a, .decimal b => a.agrees b
  | _, _ => false

end Value

end CheckedSelect
