import CheckedSelect.Proofs.Json.Reading
import CheckedSelect.Schema.Codec

/-!
# CheckedSelect.Proofs.Schema.RoundTrip

A schema written as a document is read as the same schema.

* `encode_reads`: the same for columns, tables and schemas as values inside a document, with any
  spacing made of blanks.
* `parse_toText`: the round trip of whole texts.
-/

namespace CheckedSelect

open Json

theorem ValueKind.reader_reads (k : ValueKind) :
    ReadsValue ValueKind.reader (quoted k.name.toList) k :=
  nameOf_reads (ValueKind.ofName?_name k)

variable {spacing : Spacing}

namespace ColumnDef

theorem typeField_reads (kind : ValueKind) (nullable? : Option Bool) {before after : List Char}
    (hbefore : Gap before) (hafter : Gap after) :
    Reads (recordMember typeField nullableField (none, nullable?) "type")
      (before ++ ':' :: (after ++ quoted kind.name.toList)) (some kind, nullable?) :=
  member_reads kind.reader_reads hbefore hafter fun k => (some k, nullable?)

theorem nullableField_reads (kind? : Option ValueKind) (nullable : Bool) {before after : List Char}
    (hbefore : Gap before) (hafter : Gap after) :
    Reads (recordMember typeField nullableField (kind?, none) "nullable")
      (before ++ ':' :: (after ++ boolText nullable)) (kind?, some nullable) :=
  member_reads (boolean_reads nullable) hbefore hafter fun b => (kind?, some b)

theorem typeLine_reads (kind : ValueKind) (gap : List Char) (hgap : Gap gap) :
    Reads (recordMember typeField nullableField (none, none) (String.ofList "type".toList))
      (':' :: (gap ++ quoted kind.name.toList)) (some kind, none) := by
  rw [String.ofList_toList]
  exact typeField_reads kind none Gap.nil hgap

theorem nullableLine_reads (kind : ValueKind) (nullable : Bool) (gap : List Char) (hgap : Gap gap) :
    Reads (recordMember typeField nullableField (some kind, none) (String.ofList "nullable".toList))
      (':' :: (gap ++ boolText nullable)) (some kind, some nullable) := by
  rw [String.ofList_toList]
  exact nullableField_reads (some kind) nullable Gap.nil hgap

/-- Both fields are written, so neither default is used. -/
theorem gathers_fields (d : ColumnDef) :
    Gathers (recordMember typeField nullableField) (none, none)
      [("type".toList, quoted d.kind.name.toList), ("nullable".toList, boolText d.nullable)]
      (some d.kind, some d.nullable) :=
  .cons (typeLine_reads d.kind) (.cons (nullableLine_reads d.kind d.nullable) .nil)

theorem encode_reads (hs : spacing.Blank) (depth : Nat) (d : ColumnDef) :
    ReadsValue ColumnDef.reader (d.encode spacing depth) d := by
  obtain ⟨text, htext, hmembers⟩ := d.gathers_fields.objectText_eq hs depth
  rw [ColumnDef.encode, htext]
  exact (record_reads hmembers).map fun p => ColumnDef.mk p.1 p.2

end ColumnDef

theorem TableDef.encode_reads (hs : spacing.Blank) (depth : Nat) (t : TableDef) :
    ReadsValue TableDef.reader (t.encode spacing depth) t :=
  mapping_written hs (ColumnDef.encode_reads hs (depth + 1)) depth t

namespace Schema

theorem encode_reads (hs : spacing.Blank) (depth : Nat) (s : Schema) :
    ReadsValue Schema.reader (s.encode spacing depth) s :=
  mapping_written hs (TableDef.encode_reads hs (depth + 1)) depth s

/-- Writing a schema and reading it again gives the same schema, whatever the names in it are. -/
theorem parse_toText (s : Schema) : Schema.parse s.toText = .ok s :=
  (encode_reads Spacing.indented_blank 0 s).parse

end Schema
end CheckedSelect
