import CheckedSelect.Proofs.Json.Layout
import CheckedSelect.Proofs.Schema.RoundTrip

/-!
# CheckedSelect.Proofs.Schema.Listing

Loading a schema from a text agrees with adding its tables and columns in the order in which they
are written, names that are repeated included.

* `TableDef.assemble`, `Schema.assemble`: a list of columns added one after the other, and a list of
  tables.
* `ColumnDef.Text`, `TableDef.Text`, `Schema.Text`: the texts that write them, with any blanks.
* `parse_text_eq_assemble`: such a text is read as what is assembled. Of two columns of one name the
  later is kept, and of two tables of one name the later as a whole.
-/

namespace CheckedSelect

open Json

/-! ## In code -/

def TableDef.assemble (columns : List (String × ColumnDef)) : TableDef :=
  columns.foldl
    (fun t c => if c.2.nullable then t.nullableColumn c.1 c.2.kind else t.column c.1 c.2.kind)
    TableDef.empty

def Schema.assemble (tables : List (String × List (String × ColumnDef))) : Schema :=
  tables.foldl (fun s t => s.table t.1 (TableDef.assemble t.2)) Schema.empty

theorem TableDef.assemble_eq_ofList (columns : List (String × ColumnDef)) :
    TableDef.assemble columns = NameMap.ofList columns := by
  have hadd : (fun (t : TableDef) (c : String × ColumnDef) =>
      if c.2.nullable then t.nullableColumn c.1 c.2.kind else t.column c.1 c.2.kind) =
      fun t c => t.insert c.1 c.2 := by
    funext t ⟨name, kind, nullable⟩
    cases nullable with
    | true => rfl
    | false => rfl
  rw [TableDef.assemble, hadd]
  rfl

theorem Schema.assemble_eq_ofList (tables : List (String × List (String × ColumnDef))) :
    Schema.assemble tables = NameMap.ofList (tables.map fun t => (t.1, TableDef.assemble t.2)) := by
  rw [NameMap.ofList, List.foldl_map]
  rfl

/-! ## As a text -/

/-- The fields of a column with their values: both in either order, or the type alone where a null
is not allowed. -/
inductive ColumnDef.Fields : ColumnDef → List (String × List Char) → Prop where
  | typeOnly (kind : ValueKind) : Fields ⟨kind, false⟩ [("type", quoted kind.name.toList)]
  | typeFirst (kind : ValueKind) (nullable : Bool) :
      Fields ⟨kind, nullable⟩
        [("type", quoted kind.name.toList), ("nullable", boolText nullable)]
  | nullableFirst (kind : ValueKind) (nullable : Bool) :
      Fields ⟨kind, nullable⟩
        [("nullable", boolText nullable), ("type", quoted kind.name.toList)]

def ColumnDef.Text (d : ColumnDef) (text : List Char) : Prop :=
  ∃ fields, d.Fields fields ∧ ObjectText (fun value written => written = value) fields text

def TableDef.Text (columns : List (String × ColumnDef)) (text : List Char) : Prop :=
  ObjectText ColumnDef.Text columns text

/-- A whole document, with blanks around it. -/
def Schema.Text (tables : List (String × List (String × ColumnDef))) (text : String) : Prop :=
  ∃ before object after, Gap before ∧ Gap after ∧ ObjectText TableDef.Text tables object ∧
    text = String.ofList (before ++ object ++ after)

/-! ## Reading -/

namespace ColumnDef

theorem typeText_reads (kind : ValueKind) (nullable? : Option Bool) (before after text : List Char)
    (hbefore : Gap before) (hafter : Gap after) (htext : text = quoted kind.name.toList) :
    Reads (recordMember typeField nullableField (none, nullable?) "type")
      (before ++ ':' :: (after ++ text)) (some kind, nullable?) := by
  rw [htext]
  exact typeField_reads kind nullable? hbefore hafter

theorem nullableText_reads (kind? : Option ValueKind) (nullable : Bool)
    (before after text : List Char) (hbefore : Gap before) (hafter : Gap after)
    (htext : text = boolText nullable) :
    Reads (recordMember typeField nullableField (kind?, none) "nullable")
      (before ++ ':' :: (after ++ text)) (kind?, some nullable) := by
  rw [htext]
  exact nullableField_reads kind? nullable hbefore hafter

/-- The kind is always given. Where the mark is not, its default says what it would. -/
theorem Fields.collects {d : ColumnDef} {fields : List (String × List Char)} (h : d.Fields fields) :
    ∃ nullable? : Option Bool, nullable?.or nullableField.default? = some d.nullable ∧
      Collects (recordMember typeField nullableField) (fun value written => written = value)
        (none, none) fields (some d.kind, nullable?) := by
  cases h with
  | typeOnly kind =>
    exact ⟨none, rfl, .cons (typeText_reads kind none) .nil⟩
  | typeFirst kind nullable =>
    refine ⟨some nullable, rfl, .cons (typeText_reads kind none) ?_⟩
    exact .cons (nullableText_reads (some kind) nullable) .nil
  | nullableFirst kind nullable =>
    refine ⟨some nullable, rfl, .cons (nullableText_reads none nullable) ?_⟩
    exact .cons (typeText_reads kind (some nullable)) .nil

theorem text_reads {d : ColumnDef} {text : List Char} (h : d.Text text) :
    ReadsValue ColumnDef.reader text d := by
  obtain ⟨fields, hfields, body, rfl, hbody⟩ := h
  obtain ⟨nullable?, hnullable, hcollects⟩ := hfields.collects
  exact (record_reads_or (hcollects.members hbody) rfl hnullable).map fun p => ColumnDef.mk p.1 p.2

end ColumnDef

theorem TableDef.text_reads {columns : List (String × ColumnDef)} {text : List Char}
    (h : TableDef.Text columns text) :
    ReadsValue TableDef.reader text (TableDef.assemble columns) := by
  have hread := mapping_objectText (f := fun d => d) (fun _ _ hd => ColumnDef.text_reads hd) h
  rw [List.map_id'] at hread
  rw [TableDef.assemble_eq_ofList]
  exact hread

theorem Schema.text_reads {tables : List (String × List (String × ColumnDef))} {text : List Char}
    (h : ObjectText TableDef.Text tables text) :
    ReadsValue Schema.reader text (Schema.assemble tables) := by
  rw [Schema.assemble_eq_ofList]
  exact mapping_objectText (fun _ _ ht => TableDef.text_reads ht) h

/-- Loading agrees with adding: a text that writes a list of tables is read as the schema that is
assembled from the list. Of the columns of one name the last is kept, and of the tables of one name
the last as it stands, with no column of an earlier one. -/
theorem parse_text_eq_assemble {tables : List (String × List (String × ColumnDef))} {text : String}
    (h : Schema.Text tables text) :
    Schema.parse text = .ok (Schema.assemble tables) ∧
    (∀ name, (Schema.assemble tables).get? name =
      (tables.reverse.lookup name).map TableDef.assemble) ∧
    ∀ columns name, (TableDef.assemble columns).get? name = columns.reverse.lookup name := by
  refine ⟨?_, ?_, ?_⟩
  · obtain ⟨before, object, after, hbefore, hafter, hobject, rfl⟩ := h
    exact (Schema.text_reads hobject).parse_between hbefore hafter
  · intro name
    rw [Schema.assemble_eq_ofList, NameMap.get?_ofList, ← List.map_reverse, lookup_map]
  · intro columns name
    rw [TableDef.assemble_eq_ofList, NameMap.get?_ofList]

namespace Twice

def integer : ColumnDef := ⟨.integer, false⟩

def float : ColumnDef := ⟨.float, true⟩

def tables : List (String × List (String × ColumnDef)) :=
  [("a", [("x", integer), ("y", integer)]), ("\"", []), ("a", [("x", integer), ("x", float)])]

def integerText : List Char := "\x7b\"type\":\"integer\"\x7d".toList

def floatText : List Char := "\x7b \"nullable\":true,\"type\" : \"float\"\x7d".toList

def text : String :=
  "\n\x7b\"a\": \x7b\"x\":\x7b\"type\":\"integer\"\x7d , \"y\":\x7b\"type\":\"integer\"\x7d\x7d" ++
    ", \"\\\"\":\x7b \x7d, \"a\":\x7b\"x\":\x7b\"type\":\"integer\"\x7d" ++
    ",\"x\":\x7b \"nullable\":true,\"type\" : \"float\"\x7d\x7d\x7d"

theorem integer_text : integer.Text integerText := by
  refine ⟨_, .typeOnly .integer, _, ?_,
    .member (.first Gap.nil) Gap.nil Gap.nil rfl (.close Gap.nil)⟩
  rfl

theorem float_text : float.Text floatText := by
  have blank : Gap [' '] := .single rfl
  refine ⟨_, .nullableFirst .float true, _, ?_,
    .member (.first blank) Gap.nil Gap.nil rfl
      (.member (.next Gap.nil Gap.nil) blank blank rfl (.close Gap.nil))⟩
  rfl

theorem tables_text : Schema.Text tables text := by
  have blank : Gap [' '] := .single rfl
  have newline : Gap ['\n'] := .single rfl
  refine ⟨_, _, _, newline, Gap.nil, ⟨_, rfl,
    .member (.first Gap.nil) Gap.nil blank ⟨_, rfl,
      .member (.first Gap.nil) Gap.nil Gap.nil integer_text
        (.member (.next blank blank) Gap.nil Gap.nil integer_text (.close Gap.nil))⟩
    (.member (.next Gap.nil blank) Gap.nil Gap.nil ⟨_, rfl, .close blank⟩
    (.member (.next Gap.nil blank) Gap.nil Gap.nil ⟨_, rfl,
      .member (.first Gap.nil) Gap.nil Gap.nil integer_text
        (.member (.next Gap.nil Gap.nil) Gap.nil Gap.nil float_text (.close Gap.nil))⟩
    (.close Gap.nil)))⟩, ?_⟩
  cbv

/-- The second table of a name has none of the columns of the first, and the second column of a name
is the one it has. -/
theorem second_table_and_column_kept :
    Schema.Text tables text ∧ Schema.parse text = .ok (Schema.assemble tables) ∧
    ∃ second, (Schema.assemble tables).get? "a" = some second ∧
      second.get? "x" = some float ∧ second.get? "y" = none := by
  obtain ⟨hparse, htable, hcolumn⟩ := parse_text_eq_assemble tables_text
  refine ⟨tables_text, hparse, TableDef.assemble [("x", integer), ("x", float)], htable "a", ?_, ?_⟩
  · exact hcolumn _ "x"
  · exact hcolumn _ "y"

end Twice

end CheckedSelect
