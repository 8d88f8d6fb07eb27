/-!
# CheckedSelect.ValueKind

What a column can be declared to hold.
-/

namespace CheckedSelect

inductive ValueKind where
  | boolean
  | integer
  | float
  | text
  | json
  | uuid
  | timestamp
  | decimal
  deriving DecidableEq, Repr

namespace ValueKind

def name : ValueKind → String
  | .boolean => "boolean"
  | .integer => "integer"
  | .float => "float"
  | .text => "text"
  | .json => "json"
  | .uuid => "uuid"
  | .timestamp => "timestamp"
  | .decimal => "decimal"

/-- In the order in which messages list them. -/
def all : List ValueKind :=
  [.boolean, .integer, .float, .text, .json, .uuid, .timestamp, .decimal]

def ofName? (name : String) : Option ValueKind :=
  all.find? fun k => k.name == name

@[simp] theorem ofName?_name (k : ValueKind) : ofName? k.name = some k := by
  cases k <;> decide

end ValueKind

end CheckedSelect
