import CheckedSelect.RenderOptions

/-!
# CheckedSelect.Identifier

Names of tables and columns as they stand in a statement. A name loses every character that is
not an ASCII letter, a digit, `_` or `-`, and is then written between backticks or bare.

* `sanitize` - the characters that survive;
* `render`, `renderQualified`, `renderList` - a name, a dotted pair, a list of names.
-/

namespace CheckedSelect.Identifier

def isNameChar (c : Char) : Bool :=
  c.isAlphanum || c == '_' || c == '-'

def sanitize (name : String) : String :=
  String.ofList (name.toList.filter isNameChar)

/-- The surviving characters between backticks. -/
def quote (name : String) : String :=
  "`" ++ sanitize name ++ "`"

def render (options : RenderOptions) (name : String) : String :=
  if options.quoteIdentifiers then quote name else sanitize name

/-- Each part is written on its own, so a dot inside a name never separates. -/
def renderQualified (options : RenderOptions) (table column : String) : String :=
  render options table ++ "." ++ render options column

def renderList (options : RenderOptions) (names : List String) : List String :=
  names.map (render options)

@[simp] theorem toList_sanitize (name : String) :
    (sanitize name).toList = name.toList.filter isNameChar := by
  simp [sanitize]

@[simp] theorem sanitize_sanitize (name : String) : sanitize (sanitize name) = sanitize name := by
  simp [sanitize]

end CheckedSelect.Identifier
