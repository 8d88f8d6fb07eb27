import CheckedSelect.Checked.Rules
import CheckedSelect.Event

/-!
# CheckedSelect.Checked.Builder

The builder that is checked at run time. A call is accepted as an addition to the query or refused
with a cause, by the schema and the table of the builder alone: what was added before plays no
part.

* `Step` - the calls, as data;
* `Scope.accept` - the addition that a call makes;
* `Builder.apply` - the builder after an accepted call;
* `Builder.attempt`, `Builder.run` - calls in a row, refused ones without effect;
* `Builder.select`, `Builder.whereValue`, `Builder.join`, … - the calls by their names, and
  `JoinCall.onValue`, … for the conditions of a join.
-/

namespace CheckedSelect.Checked

inductive Step where
  /-- `["*"]` selects every column. -/
  | select (names : List String)
  | filter (clause : Linked Predicate)
  | join (kind : JoinKind) (table : String) (calls : List (Linked JoinCall))
  deriving Repr

namespace Scope

/-- All names are columns; otherwise the first that is none is reported. -/
def checkColumns (s : Scope) : List String → Except Rejection Unit
  | [] => .ok ()
  | name :: names => do
    let _ ← s.column name
    s.checkColumns names

def selection (s : Scope) (names : List String) : Except Rejection Selection :=
  if names.isEmpty then .error (.invalidQuery .emptySelection)
  else if names = ["*"] then .ok .all
  else do
    s.checkColumns names
    return .columns names

/-- The conditions of a join, or the cause of the first one that is refused. -/
def joinConditions (s : Scope) (table : String) (definition : TableDef)
    (calls : List (Linked JoinCall)) : Except Rejection (List (Linked JoinPredicate)) :=
  calls.mapM fun c => do
    let p ← s.joinPredicate table definition c.condition
    return ⟨c.relation, p⟩

def joinOf (s : Scope) (kind : JoinKind) (table : String) (calls : List (Linked JoinCall)) :
    Except Rejection Join := do
  if table = s.table then .error (.selfJoin table)
  else
    let definition ← s.schema.find table
    let conditions ← s.joinConditions table definition calls
    return ⟨kind, table, conditions⟩

def accept (s : Scope) : Step → Except Rejection Addition
  | .select names => .selection <$> s.selection names
  | .filter clause => do
    s.checkPredicate clause.condition
    return .filter clause
  | .join kind table calls => .join <$> s.joinOf kind table calls

end Scope

structure Builder where
  scope : Scope
  query : Query

namespace Builder

def apply (b : Builder) (step : Step) : Except Rejection Builder := do
  let addition ← b.scope.accept step
  return { b with query := b.query.add addition }

/-- What is reported of a call, by its outcome. -/
def report (b : Builder) : Except Rejection Builder → List Event
  | .ok next => b.query.growth next.query
  | .error cause => [.rejected cause]

/-- A refused call leaves the builder as it was. -/
def attempt (b : Builder) (step : Step) : Builder :=
  match b.apply step with
  | .ok b => b
  | .error _ => b

def run (b : Builder) (steps : List Step) : Builder :=
  steps.foldl attempt b

end Builder

/-! ## Calls by name -/

namespace JoinCall

variable (column : String) (operator : Operator)

def onValue (value : Value) : Linked JoinCall := ⟨.and, .compare column operator value⟩

def orOnValue (value : Value) : Linked JoinCall := ⟨.or, .compare column operator value⟩

def onColumn (other : String) : Linked JoinCall := ⟨.and, .compareColumns column operator other⟩

def orOnColumn (other : String) : Linked JoinCall := ⟨.or, .compareColumns column operator other⟩

end JoinCall

namespace Builder

variable (b : Builder)

def select (names : List String) : Except Rejection Builder := b.apply (.select names)

def filter (relation : Relation) (condition : Predicate) : Except Rejection Builder :=
  b.apply (.filter ⟨relation, condition⟩)

/-- A check that a column is null, or that it is not. -/
def nullFilter (column : String) (relation : Relation) (negated : Bool) :
    Except Rejection Builder :=
  b.filter relation (if negated then .isNotNull column else .isNull column)

section

variable (column : String) (operator : Operator)

def whereValue (value : Value) : Except Rejection Builder :=
  b.filter .and (.compare column operator value)

def orWhereValue (value : Value) : Except Rejection Builder :=
  b.filter .or (.compare column operator value)

def andWhereValue (value : Value) : Except Rejection Builder :=
  b.whereValue column operator value

def whereNull : Except Rejection Builder := b.nullFilter column .and false

def orWhereNull : Except Rejection Builder := b.nullFilter column .or false

def whereNotNull : Except Rejection Builder := b.nullFilter column .and true

def orWhereNotNull : Except Rejection Builder := b.nullFilter column .or true

def whereColumn (other : String) : Except Rejection Builder :=
  b.filter .and (.compareColumns column operator other)

def orWhereColumn (other : String) : Except Rejection Builder :=
  b.filter .or (.compareColumns column operator other)

end

section

variable (table : String) (calls : List (Linked JoinCall))

def joinAs (kind : JoinKind) : Except Rejection Builder := b.apply (.join kind table calls)

def join : Except Rejection Builder := b.joinAs table calls .inner

def leftJoin : Except Rejection Builder := b.joinAs table calls .left

def rightJoin : Except Rejection Builder := b.joinAs table calls .right

def fullJoin : Except Rejection Builder := b.joinAs table calls .full

end

end Builder

end CheckedSelect.Checked

namespace CheckedSelect.Schema

/-- Start a statement on a table of the schema. -/
def query (s : Schema) (table : String) : Except Rejection Checked.Builder := do
  let definition ← s.find table
  return ⟨⟨s, table, definition⟩, { table }⟩

/-- What is reported of the start. -/
def queryEvents (s : Schema) (table : String) : List Event :=
  match s.query table with
  | .ok _ => []
  | .error cause => [.rejected cause]

end CheckedSelect.Schema
