import CheckedSelect.Floating.Layout
import CheckedSelect.Json.Document
import CheckedSelect.Json.Quoted

/-!
# CheckedSelect.Json.Printer

Writing documents.

* `Json.compact` - a document without any blanks;
* `Spacing`, `objectText` - objects with given spacing, over members that are already texts.
-/

namespace CheckedSelect.Json

/-- Where line breaks and blanks go. -/
structure Spacing where
  /-- What stands before a member, or before the closing brace, at a depth. -/
  lineBreak : Nat → List Char
  afterColon : List Char

namespace Spacing

def tight : Spacing := ⟨fun _ => [], []⟩

/-- One member a line, two blanks for each level. -/
def indented : Spacing := ⟨fun depth => '\n' :: List.replicate (2 * depth) ' ', [' ']⟩

end Spacing

def memberText (spacing : Spacing) (name value : List Char) : List Char :=
  quoted name ++ ':' :: spacing.afterColon ++ value

/-- An object whose braces stand at the given depth. An empty one has nothing between them. -/
def objectText (spacing : Spacing) (depth : Nat) (members : List (List Char × List Char)) :
    List Char :=
  if members.isEmpty then "\x7b\x7d".toList
  else
    let lines := members.map fun (name, value) =>
      spacing.lineBreak (depth + 1) ++ memberText spacing name value
    '{' :: [','].intercalate lines ++ spacing.lineBreak depth ++ ['}']

def boolText (b : Bool) : List Char := (toString b).toList

def intText (n : Int) : List Char := (toString n).toList

mutual

def compact : Json → List Char
  | .null => "null".toList
  | .bool b => boolText b
  | .int n => intText n
  | .float x => (FloatLayout.json .binary64).write x
  | .string s => quoted s.toList
  | .array items => '[' :: [','].intercalate (compactItems items) ++ [']']
  | .object members => objectText .tight 0 (compactMembers members)

def compactItems : List Json → List (List Char)
  | [] => []
  | a :: as => compact a :: compactItems as

def compactMembers : List (String × Json) → List (List Char × List Char)
  | [] => []
  | (name, a) :: as => (name.toList, compact a) :: compactMembers as

end

end CheckedSelect.Json
