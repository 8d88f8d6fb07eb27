import CheckedSelect.Json.Expect
import CheckedSelect.Json.Printer
import CheckedSelect.RenderOptions

/-!
# CheckedSelect.RenderOptions.Codec

Render options as documents: an object with one mark for each switch. A switch that is left out
is on.
-/

namespace CheckedSelect.RenderOptions

open Json

def identifiersField : RecordField Bool := ⟨"quote_identifiers", boolean, some true⟩

def stringsField : RecordField Bool := ⟨"quote_strings", boolean, some true⟩

def encode (o : RenderOptions) : List Char :=
  objectText .tight 0
    [(identifiersField.name.toList, boolText o.quoteIdentifiers),
      (stringsField.name.toList, boolText o.quoteStrings)]

def reader : Reader RenderOptions :=
  (fun (identifiers, strings) => ⟨identifiers, strings⟩) <$>
    record "struct RenderOptions" identifiersField stringsField

def parse (text : String) : Except ReadError RenderOptions := reader.parse text

end CheckedSelect.RenderOptions
