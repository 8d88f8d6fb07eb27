import CheckedSelect.Json.Number

/-!
# CheckedSelect.Json.Skip

Stepping over a value that nobody asked for. It has to be a document, but of any depth, with
numbers of any size and with strings whose surrogates need not pair up. A number that the text
cuts off counts as malformed.
-/

namespace CheckedSelect.Json

/-- `bound` is at least the number of brackets that can still be opened. -/
def skipNested : (bound : Nat) → Reader Unit
  | 0 => throw .truncated
  | bound + 1 => do
    let c ← start
    if c = 'n' then word "null".toList
    else if c = 't' then word "true".toList
    else if c = 'f' then word "false".toList
    else if c = '"' then
      advance
      skipStringRest
    else if c = '[' then
      advance
      elements (fun _ => skipNested bound) ()
    else if c = '{' then
      advance
      members skipStringRest (fun _ _ => do colon; skipNested bound) ()
    else if isNumberStart c then
      let _ ← numberText .malformed
      return ()
    else malformed

/-- Each bracket is a character, so the text bounds the depth. -/
def skipValue : Reader Unit := bounded skipNested

end CheckedSelect.Json
