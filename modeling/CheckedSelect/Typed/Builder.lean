import CheckedSelect.Event
import CheckedSelect.Typed.Table

/-!
# CheckedSelect.Typed.Builder

The builder whose calls are checked by their types. A call that can be written down is in order:
its columns belong to the right tables, its values to the columns' types, null checks are made of
nullable columns only, and no column or table meets itself. So nothing is left to refuse, and a
call is simply the addition that it makes.

* `Predicate`, `JoinCall`, `Selection`, `Step` - the calls on a table, as data;
* `Step.addition` - what a call adds to the query;
* `Builder.apply` - the builder after a call;
* `Builder.select`, `Builder.whereValue`, `Builder.join`, … - the calls by their names, and
  `JoinCall.onValue`, … for the conditions of a join.
-/

namespace CheckedSelect.Typed

inductive Predicate (t : Table) where
  | compare (column : t.Column) (operator : Operator) (value : column.type.Carrier)
  | isNull (column : t.Column) (nullable : column.type.nullable = true)
  | isNotNull (column : t.Column) (nullable : column.type.nullable = true)
  | compareColumns (left : t.Column) (operator : Operator) (right : t.Column)
      (distinct : left.name ≠ right.name) (fits : right.type.AssignableTo left.type)

/-- A condition of a join of `t` with `other`. -/
inductive JoinCall (t other : Table) where
  | compare (column : other.Column) (operator : Operator) (value : column.type.Carrier)
  | compareColumns (left : other.Column) (operator : Operator) (right : t.Column)
      (fits : right.type.AssignableTo left.type)

inductive Selection (t : Table) where
  | all
  | columns (first : t.Column) (rest : List t.Column)

inductive Step (t : Table) where
  | select (selection : Selection t)
  | filter (clause : Linked (Predicate t))
  | join (kind : JoinKind) (other : Table) (distinct : other.name ≠ t.name)
      (calls : List (Linked (JoinCall t other)))

/-! ## What a call adds -/

def Table.Column.reference {t : Table} (c : t.Column) : Reference := ⟨t.name, c.name⟩

def Predicate.untyped {t : Table} : Predicate t → CheckedSelect.Predicate
  | .compare column operator value =>
    .compare column.name operator (column.type.toValue value)
  | .isNull column _ => .isNull column.name
  | .isNotNull column _ => .isNotNull column.name
  | .compareColumns left operator right _ _ => .compareColumns left.name operator right.name

def JoinCall.untyped {t other : Table} : JoinCall t other → JoinPredicate
  | .compare column operator value =>
    .compare column.reference operator (column.type.toValue value)
  | .compareColumns left operator right _ =>
    .compareColumns left.reference operator right.reference

def Selection.untyped {t : Table} : Selection t → CheckedSelect.Selection
  | .all => .all
  | .columns first rest => .columns ((first :: rest).map Table.Column.name)

def Step.addition {t : Table} : Step t → Addition
  | .select selection => .selection selection.untyped
  | .filter clause => .filter (clause.map Predicate.untyped)
  | .join kind other _ calls => .join ⟨kind, other.name, calls.map (Linked.map JoinCall.untyped)⟩

structure Builder (t : Table) where
  query : Query

namespace Builder

def start (t : Table) : Builder t := ⟨{ table := t.name }⟩

def apply {t : Table} (b : Builder t) (step : Step t) : Builder t :=
  ⟨b.query.add step.addition⟩

/-- What is reported of a call, by its outcome. -/
def report {t : Table} (b next : Builder t) : List Event := b.query.growth next.query

def run {t : Table} (b : Builder t) (steps : List (Step t)) : Builder t :=
  steps.foldl apply b

end Builder

/-! ## Calls by name -/

variable {t : Table}

namespace JoinCall

variable {other : Table}

section

variable (column : other.Column) (operator : Operator) (value : column.type.Carrier)

def onValue : Linked (JoinCall t other) := ⟨.and, .compare column operator value⟩

def orOnValue : Linked (JoinCall t other) := ⟨.or, .compare column operator value⟩

end

section

variable (left : other.Column) (operator : Operator) (right : t.Column)
  (fits : right.type.AssignableTo left.type)

def onColumn : Linked (JoinCall t other) := ⟨.and, .compareColumns left operator right fits⟩

def orOnColumn : Linked (JoinCall t other) := ⟨.or, .compareColumns left operator right fits⟩

end

end JoinCall

namespace Builder

variable (b : Builder t)

def select (selection : Selection t) : Builder t := b.apply (.select selection)

def filter (relation : Relation) (condition : Predicate t) : Builder t :=
  b.apply (.filter ⟨relation, condition⟩)

section

variable (column : t.Column) (operator : Operator) (value : column.type.Carrier)

def whereValue : Builder t := b.filter .and (.compare column operator value)

def orWhereValue : Builder t := b.filter .or (.compare column operator value)

def andWhereValue : Builder t := b.whereValue column operator value

end

section

variable (column : t.Column) (nullable : column.type.nullable = true)

def whereNull : Builder t := b.filter .and (.isNull column nullable)

def orWhereNull : Builder t := b.filter .or (.isNull column nullable)

def whereNotNull : Builder t := b.filter .and (.isNotNull column nullable)

def orWhereNotNull : Builder t := b.filter .or (.isNotNull column nullable)

end

section

variable (left : t.Column) (operator : Operator) (right : t.Column)
  (distinct : left.name ≠ right.name) (fits : right.type.AssignableTo left.type)

def whereColumn : Builder t := b.filter .and (.compareColumns left operator right distinct fits)

def orWhereColumn : Builder t := b.filter .or (.compareColumns left operator right distinct fits)

end

section

variable (other : Table) (distinct : other.name ≠ t.name)
  (calls : List (Linked (JoinCall t other)))

def joinAs (kind : JoinKind) : Builder t := b.apply (.join kind other distinct calls)

def join : Builder t := b.joinAs other distinct calls .inner

def leftJoin : Builder t := b.joinAs other distinct calls .left

def rightJoin : Builder t := b.joinAs other distinct calls .right

def fullJoin : Builder t := b.joinAs other distinct calls .full

end

end Builder

end CheckedSelect.Typed
