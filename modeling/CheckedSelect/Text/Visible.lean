import CheckedSelect.Text.InvisibleRanges

/-!
# CheckedSelect.Text.Visible

A text between double quotes in a form fit for a message: quotes and backslashes are escaped, and
so is every character that would not be seen.
-/

namespace CheckedSelect.Text

def isInvisible (c : Char) : Bool :=
  c.toNat < 0x20 || invisibleRanges.any fun (low, high) => low ≤ c.toNat && c.toNat ≤ high

/-- Some characters have an escape of their own, others are named by their code point. -/
def visibleChar (c : Char) : List Char :=
  match c with
  | '"' => ['\\', '"']
  | '\\' => ['\\', '\\']
  | '\n' => ['\\', 'n']
  | '\r' => ['\\', 'r']
  | '\t' => ['\\', 't']
  | '\x00' => ['\\', '0']
  | c =>
    if isInvisible c then '\\' :: 'u' :: '\x7b' :: Nat.toDigits 16 c.toNat ++ ['\x7d'] else [c]

def visible (text : String) : String :=
  String.ofList ('"' :: text.toList.flatMap visibleChar ++ ['"'])

end CheckedSelect.Text
