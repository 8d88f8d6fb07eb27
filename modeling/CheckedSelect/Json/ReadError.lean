import CheckedSelect.Floating.Layout
import CheckedSelect.Text.Visible

/-!
# CheckedSelect.Json.ReadError

Why a text is not accepted: it ends too early, it is not a document, or it is one of another
shape than expected. Only the last has a message.

* `Found` - what stood where something else was expected;
* `Mismatch` - the ways a document can have the wrong shape, with `Mismatch.message`;
* `ReadError` - the three categories.
-/

namespace CheckedSelect.Json

inductive Found where
  | null
  | boolean (b : Bool)
  | integer (n : Int)
  | float (x : Binary64)
  | string (s : String)
  | sequence
  | mapping
  | bareVariant
  deriving DecidableEq, Repr

inductive Mismatch where
  | wrongType (found : Found) (expected : String)
  | wrongValue (found : Found) (expected : String)
  | unknownVariant (name : String) (known : List String)
  | duplicateField (name : String)
  | missingField (name : String)
  | wrongLength (length : Nat) (expected : String)
  deriving DecidableEq, Repr

inductive ReadError where
  /-- The text ends where more is needed. -/
  | truncated
  /-- No document begins like this. -/
  | malformed
  | mismatch (cause : Mismatch)
  deriving DecidableEq, Repr

def inTicks (text : String) : String := "`" ++ text ++ "`"

def Found.message : Found → String
  | .null => "null"
  | .boolean b => "boolean " ++ inTicks (toString b)
  | .integer n => "integer " ++ inTicks (toString n)
  | .float x => "floating point " ++ inTicks (String.ofList ((FloatLayout.json .binary64).write x))
  | .string s => "string " ++ Text.visible s
  | .sequence => "sequence"
  | .mapping => "map"
  | .bareVariant => "unit variant"

def Mismatch.message : Mismatch → String
  | .wrongType found expected => "invalid type: " ++ found.message ++ ", expected " ++ expected
  | .wrongValue found expected => "invalid value: " ++ found.message ++ ", expected " ++ expected
  | .unknownVariant name known =>
    "unknown variant " ++ inTicks name ++ ", expected one of " ++
      String.intercalate ", " (known.map inTicks)
  | .duplicateField name => "duplicate field " ++ inTicks name
  | .missingField name => "missing field " ++ inTicks name
  | .wrongLength length expected =>
    "invalid length " ++ toString length ++ ", expected " ++ expected

/-- The message when a whole text was to be loaded. -/
def Mismatch.loadMessage (m : Mismatch) : String := "Serialization error: " ++ m.message

end CheckedSelect.Json
