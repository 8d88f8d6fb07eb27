import CheckedSelect.Json.Expect
import CheckedSelect.Json.Printer
import CheckedSelect.Operator

/-!
# CheckedSelect.Operator.Codec

Operators as documents: the symbol, without any blanks, as a string.
-/

namespace CheckedSelect.Operator

def encode (o : Operator) : List Char := Json.quoted o.symbol.toList

def reader : Json.Reader Operator :=
  Json.nameOf (all.map symbol) ofSymbol?

end CheckedSelect.Operator
