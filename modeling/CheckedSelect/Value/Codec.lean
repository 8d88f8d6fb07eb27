import CheckedSelect.Json.Expect
import CheckedSelect.Json.Read
import CheckedSelect.Value

/-!
# CheckedSelect.Value.Codec

Values as documents: the name of the variant, and its value as a single member under that name. A
null has no value. Identifiers, timestamps and decimals are strings.

* `Variant` - the names, in the order in which messages list them;
* `Value.encode` - a value as a text without blanks;
* `Value.reader` - the value that a text holds.
-/

namespace CheckedSelect

inductive Variant where
  | null
  | bool
  | int32
  | int64
  | float32
  | float64
  | text
  | json
  | uuid
  | timestamp
  | decimal
  deriving DecidableEq, Repr

namespace Variant

def name : Variant → String
  | .null => "Null"
  | .bool => "Bool"
  | .int32 => "I32"
  | .int64 => "I64"
  | .float32 => "F32"
  | .float64 => "F64"
  | .text => "String"
  | .json => "Json"
  | .uuid => "Uuid"
  | .timestamp => "Timestamp"
  | .decimal => "Decimal"

def all : List Variant :=
  [.null, .bool, .int32, .int64, .float32, .float64, .text, .json, .uuid, .timestamp, .decimal]

def ofName? (name : String) : Option Variant :=
  all.find? fun v => v.name == name

@[simp] theorem ofName?_name (v : Variant) : ofName? v.name = some v := by
  cases v <;> decide

end Variant

namespace Value

def variant : Value → Variant
  | .null => .null
  | .bool _ => .bool
  | .int32 _ => .int32
  | .int64 _ => .int64
  | .float32 _ => .float32
  | .float64 _ => .float64
  | .text _ => .text
  | .json _ => .json
  | .uuid _ => .uuid
  | .timestamp _ => .timestamp
  | .decimal _ => .decimal

/-! ## Writing -/

/-- The value under the name of the variant. -/
def payload : Value → List Char
  | .null => "null".toList
  | .bool b => Json.boolText b
  | .int32 n => Json.intText n.toInt
  | .int64 n => Json.intText n.toInt
  | .float32 x => (FloatLayout.json .binary32).write x
  | .float64 x => (FloatLayout.json .binary64).write x
  | .text s => Json.quoted s.toList
  | .json j => j.compact
  | .uuid u => Json.quoted u.text
  | .timestamp t => Json.quoted (t.text 'T')
  | .decimal d => Json.quoted d.text

def encode (v : Value) : List Char :=
  let name := v.variant.name.toList
  match v with
  | .null => Json.quoted name
  | _ => Json.objectText .tight 0 [(name, v.payload)]

/-! ## Reading -/

open Json in
/-- A string that `accept` takes. -/
def textWith {α : Type} (expected : String) (accept : List Char → Option α) : Reader α := do
  let s ← textFor expected
  match accept s.toList with
  | some a => return a
  | none => mismatch (.wrongValue (.string s) expected)

def int32? (n : Int) : Option Int32 :=
  if -Int.pow 2 31 ≤ n ∧ n < Int.pow 2 31 then some (Int32.ofInt n) else none

def int64? (n : Int) : Option Int64 :=
  if -Int.pow 2 63 ≤ n ∧ n < Int.pow 2 63 then some (Int64.ofInt n) else none

open Json in
/-- A decimal is given as a string, or as a number by its positional digits. -/
def decimalReader : Reader Decimal := do
  let expected := "a Decimal type representing a fixed-point number"
  let c ← start
  if c = '"' then textWith expected Decimal.ofText?
  else if isNumberStart c then
    match ← number with
    | .whole n =>
      match Decimal.make? n 0 with
      | some d => return d
      | none => mismatch (.wrongValue (.integer n) expected)
    | .float x =>
      match Decimal.plain? (FloatLayout.sql.write x) with
      | some d => return d
      | none => mismatch (.wrongValue (.float x) expected)
  else unexpected expected

open Json in
/-- The value under a name. A document stands inside the object that holds the name, and so may
open one bracket less than a document of its own. -/
def payloadReader : Variant → Reader Value
  | .null => do unit; return .null
  | .bool => .bool <$> boolean
  | .int32 => .int32 <$> integerWith "i32" int32?
  | .int64 => .int64 <$> integerWith "i64" int64?
  | .float32 => .float32 <$> floating .binary32 "f32"
  | .float64 => .float64 <$> floating .binary64 "f64"
  | .text => .text <$> Json.text
  | .json => .json <$> document (maxDepth - 1)
  | .uuid => .uuid <$> textWith "a formatted UUID string" Uuid.ofText?
  | .timestamp => .timestamp <$> textWith "a formatted date and time string" Timestamp.ofText?
  | .decimal => .decimal <$> decimalReader

open Json in
/-- Only the name of the null may stand alone. -/
def aloneReader : Variant → Reader Value
  | .null => return .null
  | _ => mismatch (.wrongType .bareVariant "newtype variant")

def reader : Json.Reader Value :=
  Json.choice (Variant.all.map Variant.name) Variant.ofName? aloneReader payloadReader

def parse (text : String) : Except Json.ReadError Value :=
  reader.parse text

end Value

end CheckedSelect
