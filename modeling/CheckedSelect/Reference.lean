/-!
# CheckedSelect.Reference

A column named together with its table, as `table.column`. A reference is read by splitting at
the first dot, so a table with a dot in its name cannot be referred to.
-/

namespace CheckedSelect

structure Reference where
  table : String
  column : String
  deriving DecidableEq, Repr

namespace Reference

def text (r : Reference) : String := r.table ++ "." ++ r.column

/-- The characters before and after the first dot. -/
def splitDot : List Char → Option (List Char × List Char)
  | [] => none
  | c :: rest =>
    if c = '.' then some ([], rest)
    else (splitDot rest).map fun (before, after) => (c :: before, after)

/-- Neither name may be empty. -/
def ofText? (raw : String) : Option Reference :=
  match splitDot raw.toList with
  | some (t :: table, c :: column) =>
    some ⟨String.ofList (t :: table), String.ofList (c :: column)⟩
  | _ => none

end Reference

end CheckedSelect
