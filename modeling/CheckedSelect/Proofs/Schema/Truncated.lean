import CheckedSelect.Proofs.Json.Truncated
import CheckedSelect.Proofs.Schema.RoundTrip

/-!
# CheckedSelect.Proofs.Schema.Truncated

A schema that is written as a document and then cut off is never read as another schema.

* `encode_needsAll`: for columns, tables and schemas as values inside a document, with any spacing
  made of blanks.
* `parse_truncated`: whole texts, cut between any two characters.
-/

namespace CheckedSelect

open Json

theorem ValueKind.reader_needsAll (k : ValueKind) :
    NeedsAllOf ValueKind.reader (quoted k.name.toList) :=
  nameOf_needsAll _ _ k.name.toList

variable {spacing : Spacing}

namespace ColumnDef

theorem demands_fields (d : ColumnDef) :
    Demands (recordMember typeField nullableField) (none, none)
      [("type".toList, quoted d.kind.name.toList), ("nullable".toList, boolText d.nullable)] := by
  refine .cons (typeLine_reads d.kind) ?_ (.cons (nullableLine_reads d.kind d.nullable) ?_ .nil)
  · intro gap hgap
    rw [String.ofList_toList]
    exact colon_needsAll d.kind.reader_needsAll hgap fun kind => (some kind, none)
  · intro gap hgap
    rw [String.ofList_toList]
    exact colon_needsAll (boolean_needsAll d.nullable) hgap fun b => (some d.kind, some b)

theorem encode_needsAll (hs : spacing.Blank) (depth : Nat) (d : ColumnDef) :
    NeedsAllOf ColumnDef.reader (d.encode spacing depth) := by
  obtain ⟨text, htext, hmembers⟩ := d.demands_fields.objectText hs depth
  rw [ColumnDef.encode, htext]
  intro gap hgap
  exact (record_needsAll hmembers gap hgap).map _

end ColumnDef

theorem TableDef.encode_needsAll (hs : spacing.Blank) (depth : Nat) (t : TableDef) :
    NeedsAllOf TableDef.reader (t.encode spacing depth) :=
  mapping_written_needsAll hs (ColumnDef.encode_reads hs (depth + 1))
    (ColumnDef.encode_needsAll hs (depth + 1)) depth t

namespace Schema

theorem encode_needsAll (hs : spacing.Blank) (depth : Nat) (s : Schema) :
    NeedsAllOf Schema.reader (s.encode spacing depth) :=
  mapping_written_needsAll hs (TableDef.encode_reads hs (depth + 1))
    (TableDef.encode_needsAll hs (depth + 1)) depth s

/-- A written schema that is cut off anywhere, also before its first character, is reported as too
short: it is not read as a schema, and nothing in it is found wrong. -/
theorem parse_truncated {s : Schema} {cut more : String} (h : s.toText = cut ++ more)
    (hmore : more ≠ "") : Schema.parse cut = .error .truncated :=
  (encode_needsAll Spacing.indented_blank 0 s).parse h hmore

namespace Narrow

def columns : TableDef := TableDef.empty.nullableColumn "a\"b" .integer

def schema : Schema := Schema.empty.table "t" columns

/-- Cut off in an escape of a name, and right after a value that could be the last one. -/
theorem cut_in_name_and_after_kind :
    schema.toText =
        "\x7b\n  \"t\": \x7b\n    \"a\\" ++
          "\"b\": \x7b\n      \"type\": \"integer\",\n      \"nullable\": true\n    \x7d\n  \x7d\n\x7d" ∧
    Schema.parse "\x7b\n  \"t\": \x7b\n    \"a\\" = .error .truncated ∧
    Schema.parse "\x7b\n  \"t\": \x7b\n    \"a\\\"b\": \x7b\n      \"type\": \"integer\"" =
      .error .truncated := by
  have hname : schema.toText =
      "\x7b\n  \"t\": \x7b\n    \"a\\" ++
        "\"b\": \x7b\n      \"type\": \"integer\",\n      \"nullable\": true\n    \x7d\n  \x7d\n\x7d" := by
    cbv
  have hkind : schema.toText =
      "\x7b\n  \"t\": \x7b\n    \"a\\\"b\": \x7b\n      \"type\": \"integer\"" ++
        ",\n      \"nullable\": true\n    \x7d\n  \x7d\n\x7d" := by
    cbv
  exact ⟨hname, parse_truncated hname (by decide), parse_truncated hkind (by decide)⟩

end Narrow

end Schema
end CheckedSelect
