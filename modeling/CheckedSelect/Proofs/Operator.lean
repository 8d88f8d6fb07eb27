import CheckedSelect.Proofs.Text.Blank
import CheckedSelect.Rejection

/-!
# CheckedSelect.Proofs.Operator

Which texts are read as an operator, and what is named when a text is none.

* `parse_eq_ok_iff`, `parse_eq_error_iff`: both outcomes by what is left after trimming.
* `padded_symbols_only`: the texts that are read are the symbols with white space around them; any
  other text is refused under the name of its bare core, which is unique.
-/

namespace CheckedSelect
namespace Operator

open Text (Bare BlankPadded)

theorem ofSymbol?_eq_some_iff {text : String} {o : Operator} :
    ofSymbol? text = some o ↔ text = o.symbol := by
  constructor
  · intro h
    have hsymbol := List.find?_some h
    exact (beq_iff_eq.1 hsymbol).symm
  · rintro rfl
    exact ofSymbol?_symbol o

theorem ofSymbol?_eq_none_iff {text : String} :
    ofSymbol? text = none ↔ ∀ o : Operator, text ≠ o.symbol := by
  rw [Option.eq_none_iff_forall_ne_some]
  exact forall_congr' fun o => not_congr ofSymbol?_eq_some_iff

/-- A symbol is one character, and that is no white space. -/
theorem bare_symbol (o : Operator) : Bare o.symbol.toList := by
  obtain ⟨c, hsymbol, hc⟩ : ∃ c, o.symbol.toList = [c] ∧ ¬ Text.WhiteSpace c := by
    cases o with
    | equal => exact ⟨'=', rfl, by decide⟩
    | less => exact ⟨'<', rfl, by decide⟩
    | greater => exact ⟨'>', rfl, by decide⟩
  rw [hsymbol]
  constructor
  · rintro d ⟨⟩
    exact hc
  · rintro d ⟨⟩
    exact hc

/-! ## Outcomes after trimming -/

theorem parse_eq_ok_iff {raw : String} {o : Operator} :
    parse raw = .ok o ↔ Text.trim raw.toList = o.symbol.toList := by
  have hread : parse raw = .ok o ↔ ofSymbol? (String.ofList (Text.trim raw.toList)) = some o := by
    rw [parse]
    cases ofSymbol? (String.ofList (Text.trim raw.toList)) with
    | none => simp
    | some found => simp
  rw [hread, ofSymbol?_eq_some_iff, ← String.toList_inj, String.toList_ofList]

theorem parse_eq_error_iff {raw core : String} :
    parse raw = .error core ↔
      (∀ o : Operator, Text.trim raw.toList ≠ o.symbol.toList) ∧
        Text.trim raw.toList = core.toList := by
  have hnone : ofSymbol? (String.ofList (Text.trim raw.toList)) = none ↔
      ∀ o : Operator, Text.trim raw.toList ≠ o.symbol.toList := by
    simp only [ofSymbol?_eq_none_iff, ne_eq, ← String.toList_inj, String.toList_ofList]
  have hcore : String.ofList (Text.trim raw.toList) = core ↔
      Text.trim raw.toList = core.toList := by
    rw [← String.toList_inj, String.toList_ofList]
  rw [← hnone, ← hcore, parse]
  cases ofSymbol? (String.ofList (Text.trim raw.toList)) with
  | none => simp
  | some found => simp

theorem ofText_eq_ok_iff {raw : String} {o : Operator} :
    ofText raw = .ok o ↔ parse raw = .ok o := by
  rw [ofText]
  cases parse raw with
  | ok found => simp [Except.mapError]
  | error core => simp [Except.mapError]

theorem ofText_eq_error_iff {raw : String} {cause : Rejection} :
    ofText raw = .error cause ↔
      ∃ core, cause = .unknownOperator core ∧ parse raw = .error core := by
  rw [ofText]
  cases parse raw with
  | ok found => simp [Except.mapError]
  | error core => simp [Except.mapError, eq_comm]

/-! ## Padded symbols -/

theorem trim_eq_symbol_iff {raw : String} {o : Operator} :
    Text.trim raw.toList = o.symbol.toList ↔ BlankPadded o.symbol raw := by
  rw [Text.trim_eq_iff]
  exact and_iff_left (bare_symbol o)

/-- A text is read as an operator exactly when it is the symbol of that operator with white space,
or nothing, on either side. Every other text is refused as an unknown operator, under the name of
the one text without white space at its ends that it is a padding of. -/
theorem padded_symbols_only (raw : String) :
    (∀ o, ofText raw = .ok o ↔ BlankPadded o.symbol raw) ∧
    (∀ cause, ofText raw = .error cause ↔
      (∀ o : Operator, ¬ BlankPadded o.symbol raw) ∧
        ∃ core, cause = .unknownOperator core ∧ BlankPadded core raw ∧ Bare core.toList) ∧
    ∃! core : String, BlankPadded core raw ∧ Bare core.toList := by
  refine ⟨?_, ?_, ?_⟩
  · intro o
    rw [ofText_eq_ok_iff, parse_eq_ok_iff, trim_eq_symbol_iff]
  · intro cause
    simp only [ofText_eq_error_iff, parse_eq_error_iff, ne_eq, trim_eq_symbol_iff]
    constructor
    · rintro ⟨core, hcause, hnone, hcore⟩
      exact ⟨hnone, core, hcause, Text.trim_eq_iff.1 hcore⟩
    · rintro ⟨hnone, core, hcause, hcore⟩
      exact ⟨core, hcause, hnone, Text.trim_eq_iff.2 hcore⟩
  · refine ⟨String.ofList (Text.trim raw.toList), ?_, ?_⟩
    · exact Text.trim_eq_iff.1 String.toList_ofList.symm
    · intro core hcore
      rw [Text.trim_eq_iff.2 hcore, String.ofList_toList]

example : ofText "\u3000<\t" = .ok .less := by decide

example : ofText " < = \u0085" = .error (.unknownOperator "< =") := by decide

end Operator
end CheckedSelect
