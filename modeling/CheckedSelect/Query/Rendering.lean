import CheckedSelect.Identifier
import CheckedSelect.Query

/-!
# CheckedSelect.Query.Rendering

The text of a statement. It has three parts, each made from one part of the query: the selection,
the source (first table and joins), and the filters.

The filters follow a condition that always holds, so that each of them, the first too, can carry
its own connecting word. Of the conditions of a join, the first carries none. No parentheses are
written.
-/

namespace CheckedSelect

def Relation.keyword : Relation → String
  | .and => "AND"
  | .or => "OR"

def JoinKind.keyword : JoinKind → String
  | .inner => "INNER"
  | .left => "LEFT"
  | .right => "RIGHT"
  | .full => "FULL OUTER"

def Reference.render (o : RenderOptions) (r : Reference) : String :=
  Identifier.renderQualified o r.table r.column

/-- Two sides with an operator between them. -/
def comparison (left : String) (operator : Operator) (right : String) : String :=
  left ++ " " ++ operator.symbol ++ " " ++ right

def Predicate.render (o : RenderOptions) : Predicate → String
  | .compare column operator value =>
    comparison (Identifier.render o column) operator (value.literal o.quoteStrings)
  | .isNull column => Identifier.render o column ++ " IS NULL"
  | .isNotNull column => Identifier.render o column ++ " IS NOT NULL"
  | .compareColumns left operator right =>
    comparison (Identifier.render o left) operator (Identifier.render o right)

def JoinPredicate.render (o : RenderOptions) : JoinPredicate → String
  | .compare column operator value =>
    comparison (column.render o) operator (value.literal o.quoteStrings)
  | .compareColumns left operator right =>
    comparison (left.render o) operator (right.render o)

/-- A condition after its connecting word. -/
def Linked.render {α : Type} (text : α → String) (c : Linked α) : String :=
  " " ++ c.relation.keyword ++ " " ++ text c.condition

def Selection.render (o : RenderOptions) : Selection → String
  | .all => "*"
  | .columns names => String.intercalate ", " (Identifier.renderList o names)

def Join.renderConditions (o : RenderOptions) : List (Linked JoinPredicate) → String
  | [] => ""
  | c :: cs =>
    " ON " ++ c.condition.render o ++ String.join (cs.map (Linked.render (JoinPredicate.render o)))

def Join.render (o : RenderOptions) (j : Join) : String :=
  " " ++ j.kind.keyword ++ " JOIN " ++ Identifier.render o j.table ++
    Join.renderConditions o j.conditions

namespace Query

/-- The first table and the joins. -/
def renderSource (o : RenderOptions) (table : String) (joins : List Join) : String :=
  " FROM " ++ Identifier.render o table ++ String.join (joins.map (Join.render o))

def renderFilters (o : RenderOptions) : List (Linked Predicate) → String
  | [] => ""
  | cs => " WHERE 1 = 1" ++ String.join (cs.map (Linked.render (Predicate.render o)))

def render (o : RenderOptions) (q : Query) : String :=
  "SELECT " ++ q.selection.render o ++ renderSource o q.table q.joins ++
    renderFilters o q.filters

end Query

end CheckedSelect
