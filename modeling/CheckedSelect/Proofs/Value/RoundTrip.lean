import CheckedSelect.Proofs.Decimal
import CheckedSelect.Proofs.Json.RoundTrip
import CheckedSelect.Proofs.Timestamp
import CheckedSelect.Proofs.Uuid
import CheckedSelect.Value.Codec

/-!
# CheckedSelect.Proofs.Value.RoundTrip

A literal without floats is read from its own document as an equal literal.

* `Exact`: the literals that are meant, which are all without floats but the documents that are
  nested too deeply.
* `payload_reads`: each value under its name, by the codec of its variant.
* `parse_encode`: the round trip of whole texts. What is read is the same literal, only the sign of
  a decimal zero is lost, and a decimal keeps its places.
-/

namespace CheckedSelect
namespace Value

open Json

/-! ## What is read -/

/-- The literals without floats, documents with at most 126 brackets open at once among them. -/
def Exact : Value → Prop
  | .float32 _ | .float64 _ => False
  | .json j => j.WellFormed ∧ j.NoFloats ∧ j.depth ≤ 126
  | _ => True

/-- The same literal, a decimal zero without its sign. -/
def positiveZero : Value → Value
  | .decimal d => .decimal d.positiveZero
  | v => v

/-- The places of a decimal. -/
def scale? : Value → Option Nat
  | .decimal d => some d.scale
  | _ => none

@[simp] theorem variant_positiveZero (v : Value) : v.positiveZero.variant = v.variant := by
  cases v <;> rfl

@[simp] theorem scale?_positiveZero (v : Value) : v.positiveZero.scale? = v.scale? := by
  cases v <;> rfl

theorem agrees_positiveZero {v : Value} (h : v.Exact) : v.positiveZero.agrees v = true := by
  cases v with
  | null => rfl
  | bool b => exact beq_self_eq_true b
  | int32 n => exact beq_self_eq_true n
  | int64 n => exact beq_self_eq_true n
  | float32 x => exact h.elim
  | float64 x => exact h.elim
  | text s => exact beq_self_eq_true s
  | json j => exact agrees_self j h.2.1
  | uuid u => exact beq_self_eq_true u
  | timestamp t => exact beq_self_eq_true t
  | decimal d => exact d.agrees_positiveZero

/-! ## Payloads -/

theorem textWith_reads {α : Type} (expected : String) {accept : List Char → Option α}
    {text : List Char} {a : α} (h : accept text = some a) :
    ReadsValue (textWith expected accept) (quoted text) a := by
  intro gap hgap rest hrest
  unfold textWith
  rw [bind_of_ok (textFor_reads expected text gap hgap rest hrest)]
  simp only [String.toList_ofList, h]
  rfl

theorem decimalReader_reads (d : Decimal) :
    ReadsValue decimalReader (quoted d.text) d.positiveZero := by
  intro gap hgap rest hrest
  have hread := textWith_reads "a Decimal type representing a fixed-point number"
    d.ofText?_text [] Gap.nil rest hrest
  rw [append_quoted] at hread ⊢
  unfold decimalReader
  rw [bind_of_ok (start_gap hgap (by decide) _), if_pos rfl]
  exact hread

theorem int32?_toInt (n : Int32) : int32? n.toInt = some n := by
  have hrange : -Int.pow 2 31 ≤ n.toInt ∧ n.toInt < Int.pow 2 31 := ⟨n.le_toInt, n.toInt_lt⟩
  rw [int32?, if_pos hrange, Int32.ofInt_toInt]

theorem int64?_toInt (n : Int64) : int64? n.toInt = some n := by
  have hrange : -Int.pow 2 63 ≤ n.toInt ∧ n.toInt < Int.pow 2 63 := ⟨n.le_toInt, n.toInt_lt⟩
  rw [int64?, if_pos hrange, Int64.ofInt_toInt]

theorem isWord_int32 (n : Int32) : IsWord n.toInt := by
  have hlow : -2147483648 ≤ n.toInt := n.le_toInt
  have hhigh : n.toInt < 2147483648 := n.toInt_lt
  show -9223372036854775808 ≤ n.toInt ∧ n.toInt < 18446744073709551616
  omega

theorem isWord_int64 (n : Int64) : IsWord n.toInt := by
  have hlow : -9223372036854775808 ≤ n.toInt := n.le_toInt
  have hhigh : n.toInt < 9223372036854775808 := n.toInt_lt
  show -9223372036854775808 ≤ n.toInt ∧ n.toInt < 18446744073709551616
  omega

/-- The brackets of a document stand inside the brace of its variant. -/
theorem payload_reads {v : Value} (h : v.Exact) (hnull : v.variant ≠ .null) :
    ReadsValue (payloadReader v.variant) v.payload v.positiveZero := by
  cases v with
  | null => exact absurd rfl hnull
  | bool b => exact (boolean_reads b).map Value.bool
  | int32 n => exact (integerWith_reads "i32" (isWord_int32 n) (int32?_toInt n)).map Value.int32
  | int64 n => exact (integerWith_reads "i64" (isWord_int64 n) (int64?_toInt n)).map Value.int64
  | float32 x => exact h.elim
  | float64 x => exact h.elim
  | text s =>
    have hread := textFor_reads "a string" s.toList
    rw [String.ofList_toList] at hread
    exact hread.map Value.text
  | json j =>
    have hreadable : Readable (maxDepth - 1) j := ⟨h.1, h.2.1, h.2.2⟩
    exact (document_reads hreadable).map Value.json
  | uuid u => exact (textWith_reads "a formatted UUID string" u.ofText?_text).map Value.uuid
  | timestamp t =>
    exact (textWith_reads "a formatted date and time string" t.ofText?_text).map Value.timestamp
  | decimal d => exact (decimalReader_reads d).map Value.decimal

/-! ## Whole literals -/

theorem encode_eq {v : Value} (hnull : v.variant ≠ .null) :
    v.encode = objectText .tight 0 [(v.variant.name.toList, v.payload)] := by
  cases v with
  | null => exact absurd rfl hnull
  | bool b => rfl
  | int32 n => rfl
  | int64 n => rfl
  | float32 x => rfl
  | float64 x => rfl
  | text s => rfl
  | json j => rfl
  | uuid u => rfl
  | timestamp t => rfl
  | decimal d => rfl

theorem encode_reads {v : Value} (h : v.Exact) : ReadsValue reader v.encode v.positiveZero := by
  by_cases hnull : v.variant = .null
  · cases v with
    | null => exact choice_alone (Variant.ofName?_name .null) rfl
    | _ => cases hnull
  · rw [encode_eq hnull]
    exact choice_single (Variant.ofName?_name v.variant) (payload_reads h hnull)

/-- Writing a literal and reading it again gives an equal literal of the same variant, and a decimal
with the same places. -/
theorem parse_encode {v : Value} (h : v.Exact) :
    parse (String.ofList v.encode) = .ok v.positiveZero ∧
    v.positiveZero.variant = v.variant ∧ v.positiveZero.agrees v = true ∧
    v.positiveZero.scale? = v.scale? :=
  ⟨(encode_reads h).parse, v.variant_positiveZero, agrees_positiveZero h, v.scale?_positiveZero⟩

namespace Nested

/-- A document in a document, with an escaped name and a number beyond 63 bits. -/
def document : Json :=
  .object [("", .array [.int 18446744073709551615, .object []]), ("\"", .string "\\\n")]

/-- Zero with a sign and two places. -/
def negativeZero : Decimal := ⟨true, 0, 2, by decide, by decide⟩

theorem document_exact : (Value.json document).Exact := by
  refine ⟨⟨?_, ⟨⟨by decide, by decide⟩, ⟨List.Pairwise.nil, trivial⟩, trivial⟩, trivial, trivial⟩,
    ⟨⟨trivial, trivial, trivial⟩, trivial, trivial⟩, by decide⟩
  exact .cons (by decide) (.cons (List.forall_mem_nil _) .nil)

/-- The document is read as it is, the zero as one without its sign. -/
theorem document_and_zero_read :
    (Value.json document).Exact ∧ (Value.decimal negativeZero).Exact ∧
    parse (String.ofList (Value.json document).encode) = .ok (.json document) ∧
    parse (String.ofList (Value.decimal negativeZero).encode) =
      .ok (.decimal { negativeZero with negative := false }) :=
  ⟨document_exact, trivial, (parse_encode document_exact).1,
    (parse_encode (v := .decimal negativeZero) trivial).1⟩

end Nested

end Value
end CheckedSelect
