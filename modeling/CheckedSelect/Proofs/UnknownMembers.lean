import CheckedSelect.Proofs.Json.Layout
import CheckedSelect.Proofs.Json.Records
import CheckedSelect.Proofs.Schema.RoundTrip
import CheckedSelect.RenderOptions.Codec

/-!
# CheckedSelect.Proofs.UnknownMembers

Render options and column definitions among members with other names.

* `RenderOptions.reads_among`, `ColumnDef.reads_among`: each switch and each field is what stands
  under its own name, and its default where nothing does.
* `unknown_members_ignored`: the same for texts of their own.
-/

namespace CheckedSelect

open Json

/-- The two values of a switch, as they are written. -/
def IsSwitch (b : Bool) (text : List Char) : Prop := text = boolText b

/-- A kind under its name. -/
def IsKind (kind : ValueKind) (text : List Char) : Prop := NameText kind.name text

/-- Every member that has neither of these names has a well-formed value. -/
def OthersWellFormed (name name' : String) (members : List (String × List Char)) : Prop :=
  ∀ e ∈ members, e.1 ≠ name → e.1 ≠ name' → ValueText e.2

theorem boolean_reads_switch (b : Bool) (text : List Char) (h : IsSwitch b text) :
    ReadsValue boolean text b := by
  obtain rfl := h
  exact boolean_reads b

theorem ValueKind.reader_reads_kind (kind : ValueKind) (text : List Char) (h : IsKind kind text) :
    ReadsValue ValueKind.reader text kind :=
  nameOf_reads_text (ValueKind.ofName?_name kind) h

section

variable {members : List (String × List Char)} {text : List Char}

theorem RenderOptions.reads_among (hobject : SpelledObject members text)
    {identifiers? strings? : Option Bool}
    (hidentifiers : Given IsSwitch "quote_identifiers" members identifiers?)
    (hstrings : Given IsSwitch "quote_strings" members strings?)
    (hothers : OthersWellFormed "quote_identifiers" "quote_strings" members) :
    ReadsValue RenderOptions.reader text ⟨identifiers?.getD true, strings?.getD true⟩ := by
  have hnames : identifiersField.name ≠ stringsField.name := by decide
  have hrecord : ReadsValue (record "struct RenderOptions" identifiersField stringsField) text
      (identifiers?.getD true, strings?.getD true) :=
    record_reads_among _ hnames boolean_reads_switch boolean_reads_switch hobject hothers
      hidentifiers hstrings Option.or_some Option.or_some
  exact hrecord.map fun p => RenderOptions.mk p.1 p.2

theorem ColumnDef.reads_among (hobject : SpelledObject members text) {kind : ValueKind}
    {nullable? : Option Bool} (hkind : Given IsKind "type" members (some kind))
    (hnullable : Given IsSwitch "nullable" members nullable?)
    (hothers : OthersWellFormed "type" "nullable" members) :
    ReadsValue ColumnDef.reader text ⟨kind, nullable?.getD false⟩ := by
  have hnames : typeField.name ≠ nullableField.name := by decide
  have hrecord : ReadsValue (record "struct ColumnDef" typeField nullableField) text
      (kind, nullable?.getD false) :=
    record_reads_among _ hnames ValueKind.reader_reads_kind boolean_reads_switch hobject hothers
      hkind hnullable rfl Option.or_some
  exact hrecord.map fun p => ColumnDef.mk p.1 p.2

/-- Members with other names never change what is read, whatever they hold, and however the names
and the blanks are written. A column is read so inside a document as well. -/
theorem unknown_members_ignored {before after : List Char} (hobject : SpelledObject members text)
    (hbefore : Gap before) (hafter : Gap after) :
    (∀ identifiers? strings? : Option Bool,
      Given IsSwitch "quote_identifiers" members identifiers? →
      Given IsSwitch "quote_strings" members strings? →
      OthersWellFormed "quote_identifiers" "quote_strings" members →
      RenderOptions.parse (String.ofList (before ++ text ++ after)) =
        .ok ⟨identifiers?.getD true, strings?.getD true⟩) ∧
    ∀ (kind : ValueKind) (nullable? : Option Bool),
      Given IsKind "type" members (some kind) → Given IsSwitch "nullable" members nullable? →
      OthersWellFormed "type" "nullable" members →
      ColumnDef.reader.parse (String.ofList (before ++ text ++ after)) =
        .ok ⟨kind, nullable?.getD false⟩ ∧
      ReadsValue ColumnDef.reader text ⟨kind, nullable?.getD false⟩ := by
  constructor
  · intro identifiers? strings? hidentifiers hstrings hothers
    exact (RenderOptions.reads_among hobject hidentifiers hstrings hothers).parse_between hbefore
      hafter
  · intro kind nullable? hkind hnullable hothers
    have hread := ColumnDef.reads_among hobject hkind hnullable hothers
    exact ⟨hread.parse_between hbefore hafter, hread⟩

end

namespace Noise

/-- Brackets and a quote inside a string, half of a surrogate pair, the known names one level down,
and a number beyond every float. -/
def nested : List Char :=
  "[ \"]\x7d\\\"\\ud800\",\x7b\"nullable\":true,\"quote_strings\":1e400\x7d]".toList

def members : List (String × List Char) :=
  [("note", nested), ("quote_identifiers", "false".toList), ("note", "-0.50".toList),
    ("type", "\"te\\u0078t\"".toList)]

/-- One text with members of options and of a column. -/
def text : List Char :=
  "\x7b\"note\":".toList ++ (nested ++
    " , \"quote_\\u0069dentifiers\" :false,\"note\":-0.50,\n\"type\":\"te\\u0078t\"\x7d".toList)

theorem oneSpace : Gap [' '] := Gap.single rfl

theorem lead_comma : Lead false [','] := .next Gap.nil Gap.nil

theorem all_plain {s : List Char} (h : s.all (IsPlain ·) = true) : ∀ c ∈ s, IsPlain c :=
  fun c hc => of_decide_eq_true (List.all_eq_true.1 h c hc)

theorem spells_self {s : List Char} (h : s.all (IsPlain ·) = true) : Spells s s := by
  have hself := Spells.plain_append (all_plain h) .nil
  rwa [List.append_nil] at hself

theorem huge_value : ValueText "1e400".toList :=
  .number (n := ⟨false, "1".toList, none, some (false, "400".toList)⟩)
    ⟨[], "e400".toList, by decide, by decide, .absent,
      @ExponentText.power 'e' [] _ (.inl rfl) (.inl rfl) (by decide), rfl⟩

theorem half_value : ValueText "-0.50".toList :=
  .number (n := ⟨true, "0".toList, some "50".toList, none⟩)
    ⟨".50".toList, [], by decide, by decide, .places (by decide), .absent, rfl⟩

theorem nested_value : ValueText nested := by
  have hstring : StringText "]\x7d\\\"\\ud800".toList :=
    .plain (by decide) <| .plain (by decide) <| .short (d := '"') (by decide) <|
      @StringText.unit "d800".toList 0xd800 _ ⟨rfl, by decide⟩ .nil
  have hnullable : StringText "nullable".toList := (spells_self (by decide)).stringText
  have hstrings : StringText "quote_strings".toList := (spells_self (by decide)).stringText
  have hobject : ValueText "\x7b\"nullable\":true,\"quote_strings\":1e400\x7d".toList :=
    .object <| .member (.first Gap.nil) hnullable Gap.nil Gap.nil (.bool true) <|
      .member lead_comma hstrings Gap.nil Gap.nil huge_value (.lastMember Gap.nil)
  exact .array <| .element (.first oneSpace) (.string hstring) <|
    .element lead_comma hobject (.lastElement Gap.nil)

theorem text_spelled : SpelledObject members text := by
  have hnote : Spells "note".toList "note".toList := spells_self (by decide)
  have hidentifiers : Spells "quote_identifiers".toList "quote_\\u0069dentifiers".toList :=
    Spells.plain_append (s := "quote_".toList) (all_plain (by decide)) <|
      @Spells.unit "0069".toList 'i' _ _ ⟨rfl, by decide⟩ <| spells_self (by decide)
  have htype : Spells "type".toList "type".toList := spells_self (by decide)
  refine ⟨_, rfl, ?_⟩
  exact .member (.first Gap.nil) hnote Gap.nil Gap.nil <|
    .member (.next oneSpace oneSpace) hidentifiers oneSpace Gap.nil <|
    .member lead_comma hnote Gap.nil Gap.nil <|
    .member (.next Gap.nil (Gap.single rfl)) htype Gap.nil Gap.nil (.close Gap.nil)

/-- Read as options, only the switch with the escaped name counts; read as a column, only the last
member does. -/
theorem read_both_ways :
    RenderOptions.parse (String.ofList ([' '] ++ text ++ ['\n'])) = .ok ⟨false, true⟩ ∧
      ColumnDef.reader.parse (String.ofList ([' '] ++ text ++ ['\n'])) = .ok ⟨.text, false⟩ := by
  have hspelled : Spells "text".toList "te\\u0078t".toList :=
    Spells.plain_append (s := "te".toList) (all_plain (by decide)) <|
      @Spells.unit "0078".toList 'x' _ _ ⟨rfl, by decide⟩ <| spells_self (by decide)
  have hkind : IsKind .text "\"te\\u0078t\"".toList := .string ⟨_, rfl, hspelled⟩
  have hvalues : ∀ e ∈ members, ValueText e.2 := by
    intro e he
    rcases he with _ | ⟨_, _ | ⟨_, _ | ⟨_, _ | ⟨_, he⟩⟩⟩⟩
    · exact nested_value
    · exact .bool false
    · exact half_value
    · exact .string hspelled.stringText
    · cases he
  have hoptions := unknown_members_ignored text_spelled oneSpace (Gap.single (c := '\n') rfl)
  constructor
  · exact hoptions.1 (some false) none ⟨_, rfl, rfl⟩ rfl fun e he _ _ => hvalues e he
  · exact (hoptions.2 .text none ⟨_, rfl, hkind⟩ rfl fun e he _ _ => hvalues e he).1

end Noise

end CheckedSelect
