import CheckedSelect.Query.Rendering
import CheckedSelect.Rejection

/-!
# CheckedSelect.Event

What can be reported of a builder's work: a statement was rendered, a join was added, a call was
refused.
-/

namespace CheckedSelect

inductive Event where
  | compiled (table sql : String)
  | joined (table other : String) (conditions : Nat)
  | rejected (cause : Rejection)
  deriving DecidableEq, Repr

/-- How much an event matters. -/
inductive EventLevel where
  | debug
  | trace
  deriving DecidableEq, Repr

namespace Event

def level : Event → EventLevel
  | .compiled _ _ => .debug
  | .joined _ _ _ => .trace
  | .rejected _ => .debug

def message : Event → String
  | .compiled _ _ => "compiled select statement"
  | .joined _ _ _ => "merged join clause"
  | .rejected _ => "rejected query builder call"

end Event

/-- A statement, and the report of its rendering. -/
def Query.compile (o : RenderOptions) (q : Query) : String × Event :=
  let sql := q.render o
  (sql, .compiled q.table sql)

/-- Of a query that has grown only its new joins are reported. -/
def Query.growth (before after : Query) : List Event :=
  (after.joins.drop before.joins.length).map fun j =>
    .joined before.table j.table j.conditions.length

end CheckedSelect
