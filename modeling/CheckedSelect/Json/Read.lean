import CheckedSelect.Json.Document
import CheckedSelect.Json.Number

/-!
# CheckedSelect.Json.Read

Reading documents. Of several members with one name the last is kept. The number of brackets that
may be open at once is limited.

* `document depth` - a document in which at most `depth` brackets are open at once;
* `Json.parse` - a whole text, with the limit `maxDepth`.
-/

namespace CheckedSelect.Json

def maxDepth : Nat := 127

def ofNumber : Number → Json
  | .whole n => .int n
  | .float x => .float x

/-- A document that begins with this character, other than an array or an object. -/
def scalar (c : Char) : Reader Json := do
  if c = 'n' then
    word "null".toList
    return .null
  else if c = 't' then
    word "true".toList
    return .bool true
  else if c = 'f' then
    word "false".toList
    return .bool false
  else if c = '"' then
    advance
    let s ← stringRest
    return .string s
  else if isNumberStart c then
    let n ← number
    return ofNumber n
  else malformed

def document : (depth : Nat) → Reader Json
  | 0 => do
    let c ← start
    scalar c
  | depth + 1 => do
    let c ← start
    if c = '[' then
      advance
      let items ← elements
        (fun items => do
          let item ← document depth
          return item :: items)
        []
      return .array items.reverse
    else if c = '{' then
      advance
      let entries ← members stringRest
        (fun entries name => do
          colon
          let value ← document depth
          return insertEntry name value entries)
        []
      return .object entries
    else scalar c

def parse (text : String) : Except ReadError Json :=
  (document maxDepth).parse text

end CheckedSelect.Json
