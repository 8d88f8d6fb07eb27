import CheckedSelect.Json.Skip
import CheckedSelect.NameMap

/-!
# CheckedSelect.Json.Expect

Readers for a value of a known shape. A value of another shape is described by its own first
token: an array or an object by its bracket alone, anything else after it has been read.

* `boolean`, `text`, `unit`, `integerWith`, `floating` - single values;
* `mapping` - an object with any names; `record` - an object or array with two fields;
* `choice` - one of a set of names, alone or with a value.
-/

namespace CheckedSelect.Json

def Found.ofNumber : Number → Found
  | .whole n => .integer n
  | .float x => .float x

/-- Describe the value at hand as not the expected one. -/
def unexpected {α : Type} (expected : String) : Reader α := do
  let c ← start
  let report (found : Found) : Reader α := mismatch (.wrongType found expected)
  if c = 'n' then
    word "null".toList
    report .null
  else if c = 't' then
    word "true".toList
    report (.boolean true)
  else if c = 'f' then
    word "false".toList
    report (.boolean false)
  else if c = '"' then
    advance
    let s ← stringRest
    report (.string s)
  else if c = '[' then report .sequence
  else if c = '{' then report .mapping
  else if isNumberStart c then
    let n ← number
    report (.ofNumber n)
  else malformed

def boolean : Reader Bool := do
  let c ← start
  if c = 't' then
    word "true".toList
    return true
  else if c = 'f' then
    word "false".toList
    return false
  else unexpected "a boolean"

/-- A string; `expected` says what it is wanted for. -/
def textFor (expected : String) : Reader String := do
  let c ← start
  if c = '"' then
    advance
    stringRest
  else unexpected expected

def text : Reader String := textFor "a string"

def unit : Reader Unit := do
  let c ← start
  if c = 'n' then word "null".toList else unexpected "unit"

def numberFor (expected : String) : Reader Number := do
  let c ← start
  if isNumberStart c then number else unexpected expected

/-- A whole number that `accept` takes. -/
def integerWith {α : Type} (expected : String) (accept : Int → Option α) : Reader α := do
  let n ← numberFor expected
  match n with
  | .float x => mismatch (.wrongType (.float x) expected)
  | .whole n =>
    match accept n with
    | some a => return a
    | none => mismatch (.wrongValue (.integer n) expected)

def floating (f : FloatFormat) (expected : String) : Reader (Floating f) := do
  let n ← numberFor expected
  return n.toFloating f

/-- Any names, the last of a repeated one. -/
def mapping {α : Type} (value : Reader α) : Reader (NameMap α) := do
  let c ← start
  if c = '{' then
    advance
    members stringRest
      (fun entries name => do
        colon
        let a ← value
        return entries.insert name a)
      NameMap.empty
  else unexpected "a map"

/-! ## Records -/

structure RecordField (α : Type) where
  name : String
  value : Reader α
  /-- What the field is when it is left out, if it may be. -/
  default? : Option α

def RecordField.orDefault {α : Type} (f : RecordField α) (absent : Mismatch) : Option α → Reader α
  | some a => pure a
  | none =>
    match f.default? with
    | some a => pure a
    | none => mismatch absent

/-- A member of a record with two fields. A known name must not be repeated, which is noticed at
the name; a value under an unknown name is stepped over. -/
def recordMember {α β : Type} (first : RecordField α) (second : RecordField β) (done : Option α × Option β)
    (name : String) : Reader (Option α × Option β) := do
  if name = first.name then
    if done.1.isSome then mismatch (.duplicateField name)
    else
      colon
      let a ← first.value
      return (some a, done.2)
  else if name = second.name then
    if done.2.isSome then mismatch (.duplicateField name)
    else
      colon
      let b ← second.value
      return (done.1, some b)
  else
    colon
    skipValue
    return done

/-- An element that may be missing from the end of an array. -/
def trailing {α : Type} (first : Bool) (value : Reader α) : Reader (Option α) := do
  let more ← nextElement first
  if more then some <$> value else return none

/-- A record, as an object or as an array with its fields in order. -/
def record {α β : Type} (title : String) (first : RecordField α) (second : RecordField β) :
    Reader (α × β) := do
  let c ← start
  if c = '{' then
    advance
    let (a, b) ← members stringRest (recordMember first second) (none, none)
    let a ← first.orDefault (.missingField first.name) a
    let b ← second.orDefault (.missingField second.name) b
    return (a, b)
  else if c = '[' then
    advance
    let expected := title ++ " with 2 elements"
    let a ← trailing true first.value
    let present := a.isSome
    let a ← first.orDefault (.wrongLength 0 expected) a
    let b ← trailing (!present) second.value
    let b ← second.orDefault (.wrongLength 1 expected) b
    closeArray
    return (a, b)
  else unexpected title

/-! ## Choices -/

/-- A name that says what follows. An unknown one is noticed before anything after it is read. -/
def choiceName {τ : Type} (known : List String) (ofName? : String → Option τ) : Reader τ := do
  let name ← stringRest
  match ofName? name with
  | some t => return t
  | none => mismatch (.unknownVariant name known)

/-- A name alone, or an object whose single member has that name and a value. -/
def choice {τ α : Type} (known : List String) (ofName? : String → Option τ)
    (alone : τ → Reader α) (withValue : τ → Reader α) : Reader α := do
  let c ← start
  if c = '"' then
    advance
    let t ← choiceName known ofName?
    alone t
  else if c = '{' then
    advance
    mark '"'
    let t ← choiceName known ofName?
    colon
    let a ← withValue t
    mark '}'
    return a
  else malformed

/-- One of a set of names, none of which has a value: a null may stand in its place. -/
def nameOf {τ : Type} (known : List String) (ofName? : String → Option τ) : Reader τ :=
  choice known ofName? pure fun t => do
    unit
    return t

end CheckedSelect.Json
