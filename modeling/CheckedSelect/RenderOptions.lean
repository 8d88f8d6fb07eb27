/-!
# CheckedSelect.RenderOptions

The two switches of rendering: quoting of identifiers and quoting of string literals. Both are on
by default.
-/

namespace CheckedSelect

structure RenderOptions where
  quoteIdentifiers : Bool := true
  quoteStrings : Bool := true
  deriving DecidableEq, Repr

namespace RenderOptions

instance : Inhabited RenderOptions := ⟨{}⟩

/-- Nothing is quoted. -/
def plain : RenderOptions := ⟨false, false⟩

end RenderOptions

end CheckedSelect
