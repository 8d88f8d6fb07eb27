import CheckedSelect.Typed.Builder

/-!
# CheckedSelect.Typed.Resolve

From names to typed calls: a call is well typed exactly when it resolves. Names that no column
has, literals that do not convert, and comparisons that the types forbid resolve to nothing. Each
way to resolve a call serves all calls with the same arguments.
-/

namespace CheckedSelect.Typed

namespace Table

variable {α : Type} (t : Table)

/-- A call with a literal for a column. -/
def withValue? (call : (c : t.Column) → c.type.Carrier → α) (column : String) (x : Literal) :
    Option α := do
  let c ← t.column? column
  let value ← x.convert? c.type
  return call c value

/-- A call with a nullable column. -/
def withNullable? (call : (c : t.Column) → c.type.nullable = true → α) (column : String) :
    Option α := do
  let c ← t.column? column
  if h : c.type.nullable = true then some (call c h) else none

/-- A call with two columns. -/
def withDistinct?
    (call : (l r : t.Column) → l.name ≠ r.name → r.type.AssignableTo l.type → α)
    (left right : String) : Option α := do
  let l ← t.column? left
  let r ← t.column? right
  if h : l.name ≠ r.name ∧ r.type.AssignableTo l.type then some (call l r h.1 h.2) else none

/-- A call with a column of a joined table and one of the first. -/
def withJoined? (other : Table)
    (call : (l : other.Column) → (r : t.Column) → r.type.AssignableTo l.type → α)
    (left right : String) : Option α := do
  let l ← other.column? left
  let r ← t.column? right
  if h : r.type.AssignableTo l.type then some (call l r h) else none

end Table

/-- One or more columns. -/
def Selection.columns? (t : Table) (names : List String) : Option (Selection t) := do
  match ← names.mapM t.column? with
  | first :: rest => some (.columns first rest)
  | [] => none

end CheckedSelect.Typed
