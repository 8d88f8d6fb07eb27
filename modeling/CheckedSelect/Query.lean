import CheckedSelect.Operator
import CheckedSelect.Reference
import CheckedSelect.Value

/-!
# CheckedSelect.Query

One SELECT statement as data, with the names as they were given.

* `Predicate`, `JoinPredicate` - conditions on one table, and between a joined and the first table;
* `Linked α` - a condition with the word that connects it to what stands before it;
* `Join`, `Selection`, `Query`;
* `Addition`, `Query.add` - the three ways a statement grows.
-/

namespace CheckedSelect

inductive Relation where
  | and
  | or
  deriving DecidableEq, Repr

structure Linked (α : Type) where
  relation : Relation
  condition : α
  deriving Repr

/-- Another condition after the same word. -/
def Linked.map {α β : Type} (f : α → β) (c : Linked α) : Linked β :=
  ⟨c.relation, f c.condition⟩

inductive Predicate where
  | compare (column : String) (operator : Operator) (value : Value)
  | isNull (column : String)
  | isNotNull (column : String)
  | compareColumns (left : String) (operator : Operator) (right : String)
  deriving Repr

inductive JoinPredicate where
  /-- A column of the joined table and a literal. -/
  | compare (column : Reference) (operator : Operator) (value : Value)
  /-- A column of the joined table and one of the first table. -/
  | compareColumns (left : Reference) (operator : Operator) (right : Reference)
  deriving Repr

inductive JoinKind where
  | inner
  | left
  | right
  | full
  deriving DecidableEq, Repr

structure Join where
  kind : JoinKind
  table : String
  conditions : List (Linked JoinPredicate)
  deriving Repr

inductive Selection where
  | all
  /-- In this order, repetitions kept. -/
  | columns (names : List String)
  deriving DecidableEq, Repr

structure Query where
  table : String
  selection : Selection := .all
  filters : List (Linked Predicate) := []
  joins : List Join := []
  deriving Repr

inductive Addition where
  | selection (s : Selection)
  | filter (c : Linked Predicate)
  | join (j : Join)
  deriving Repr

/-- A selection replaces the one before it; conditions and joins are appended. -/
def Query.add (q : Query) : Addition → Query
  | .selection s => { q with selection := s }
  | .filter c => { q with filters := q.filters ++ [c] }
  | .join j => { q with joins := q.joins ++ [j] }

end CheckedSelect
