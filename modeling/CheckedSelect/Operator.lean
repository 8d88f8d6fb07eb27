import CheckedSelect.Text.Blank

/-!
# CheckedSelect.Operator

The comparison operators of a clause. There are three, each with one symbol; a symbol is read
with any blanks around it.
-/

namespace CheckedSelect

inductive Operator where
  | equal
  | less
  | greater
  deriving DecidableEq, Repr

namespace Operator

def symbol : Operator → String
  | .equal => "="
  | .less => "<"
  | .greater => ">"

/-- In the order in which messages list them. -/
def all : List Operator := [.equal, .less, .greater]

def ofSymbol? (text : String) : Option Operator :=
  all.find? fun o => o.symbol == text

/-- Read a padded symbol; a text that is none is given back without its padding. -/
def parse (raw : String) : Except String Operator :=
  let text := String.ofList (Text.trim raw.toList)
  match ofSymbol? text with
  | some o => .ok o
  | none => .error text

@[simp] theorem ofSymbol?_symbol (o : Operator) : ofSymbol? o.symbol = some o := by
  cases o <;> decide

end Operator

end CheckedSelect
