import CheckedSelect.Json.Expect
import CheckedSelect.Json.Printer
import CheckedSelect.Schema

/-!
# CheckedSelect.Schema.Codec

Schemas as documents: an object of tables, each an object of columns, each an object with a type
and a mark for nullable columns that may be left out.

* `Schema.encode`, `TableDef.encode`, `ColumnDef.encode` - with any spacing;
* `Schema.toText` - one member a line;
* `Schema.parse` - the schema that a text holds.
-/

namespace CheckedSelect

open Json

def ValueKind.reader : Reader ValueKind :=
  nameOf (ValueKind.all.map ValueKind.name) ValueKind.ofName?

namespace ColumnDef

def encode (spacing : Spacing) (depth : Nat) (d : ColumnDef) : List Char :=
  objectText spacing depth
    [("type".toList, quoted d.kind.name.toList), ("nullable".toList, boolText d.nullable)]

def typeField : RecordField ValueKind := ⟨"type", ValueKind.reader, none⟩

def nullableField : RecordField Bool := ⟨"nullable", boolean, some false⟩

def reader : Reader ColumnDef :=
  (fun (kind, nullable) => ⟨kind, nullable⟩) <$>
    record "struct ColumnDef" typeField nullableField

end ColumnDef

namespace TableDef

def encode (spacing : Spacing) (depth : Nat) (t : TableDef) : List Char :=
  objectText spacing depth <|
    t.toList.map fun (name, d) => (name.toList, d.encode spacing (depth + 1))

def reader : Reader TableDef := mapping ColumnDef.reader

end TableDef

namespace Schema

def encode (spacing : Spacing) (depth : Nat) (s : Schema) : List Char :=
  objectText spacing depth <|
    s.toList.map fun (name, t) => (name.toList, TableDef.encode spacing (depth + 1) t)

def toText (s : Schema) : String := String.ofList (s.encode .indented 0)

def reader : Reader Schema := mapping TableDef.reader

def parse (text : String) : Except ReadError Schema := reader.parse text

end Schema

end CheckedSelect
