import CheckedSelect.Checked.Rules
import CheckedSelect.Proofs.Reference

/-!
# CheckedSelect.Proofs.Checked.Rules

What the rules of a single call let through, said without the rules themselves.

* `Value.AdmissibleIn`, `Predicate.WellFormed`, `JoinPredicate.WellFormed`: the literals and
  conditions that are in order.
* `JoinPredicate.call`: the call that asks for a given condition of a join.
* `checkPredicate_eq_ok_iff`, `joinPredicate_eq_ok_iff`: a rule is passed exactly by what is in
  order, and a join call that passes asks for the condition that it gives.
-/

namespace CheckedSelect

/-! ## Sequencing -/

theorem bind_eq_ok_iff {ε α β : Type} {x : Except ε α} {f : α → Except ε β} {b : β} :
    (x >>= f) = .ok b ↔ ∃ a, x = .ok a ∧ f a = .ok b := by
  cases x with
  | error e =>
    constructor
    · intro h; cases h
    · intro h
      obtain ⟨_, h, _⟩ := h
      cases h
  | ok a =>
    constructor
    · intro h
      exact ⟨a, rfl, h⟩
    · intro h
      obtain ⟨a', h, hf⟩ := h
      cases h
      exact hf

theorem bind_eq_error_iff {ε α β : Type} {x : Except ε α} {f : α → Except ε β} {e : ε} :
    (x >>= f) = .error e ↔ x = .error e ∨ ∃ a, x = .ok a ∧ f a = .error e := by
  cases x with
  | error e' =>
    constructor
    · intro h
      cases h
      exact .inl rfl
    · rintro (h | ⟨_, h, _⟩)
      · cases h
        rfl
      · cases h
  | ok a =>
    constructor
    · intro h
      exact .inr ⟨a, rfl, h⟩
    · rintro (h | ⟨_, h, hf⟩)
      · cases h
      · cases h
        exact hf

theorem map_eq_ok_iff {ε α β : Type} {x : Except ε α} {f : α → β} {b : β} :
    (f <$> x) = .ok b ↔ ∃ a, x = .ok a ∧ f a = b := by
  cases x with
  | error e =>
    constructor
    · intro h; cases h
    · intro h
      obtain ⟨_, h, _⟩ := h
      cases h
  | ok a =>
    constructor
    · intro h
      cases h
      exact ⟨a, rfl, rfl⟩
    · intro h
      obtain ⟨a', h, rfl⟩ := h
      cases h
      rfl

theorem ok_bind {ε α β : Type} (a : α) (f : α → Except ε β) : (Except.ok a >>= f) = f a := rfl

/-! ## Conditions in order -/

/-- A value that may stand beside a column: finite, and a null where the column takes one, or of
the column's kind, or an integer of 32 bits beside a float. -/
def Value.AdmissibleIn (v : Value) (d : ColumnDef) : Prop :=
  v.isFinite = true ∧
    ((v = .null ∧ d.nullable = true) ∨ v.kind? = some d.kind ∨
      ((∃ n, v = .int32 n) ∧ d.kind = .float))

namespace Predicate

/-- A condition on the columns of one table. -/
def WellFormed (definition : TableDef) : Predicate → Prop
  | .compare column _ value => ∃ d, definition.get? column = some d ∧ value.AdmissibleIn d
  | .isNull column => ∃ d, definition.get? column = some d ∧ d.nullable = true
  | .isNotNull column => ∃ d, definition.get? column = some d ∧ d.nullable = true
  | .compareColumns left _ right =>
    left ≠ right ∧ ∃ l r, definition.get? left = some l ∧ definition.get? right = some r ∧
      l.kind = r.kind ∧ (r.nullable = true → l.nullable = true)

end Predicate

namespace JoinPredicate

/-- A condition of a join of the scope's table with `table`, which is defined as `definition`. -/
def WellFormed (s : Checked.Scope) (table : String) (definition : TableDef) :
    JoinPredicate → Prop
  | .compare column _ value =>
    column.table = table ∧ ∃ d, definition.get? column.column = some d ∧ value.AdmissibleIn d
  | .compareColumns left _ right =>
    (left.table = table ∧ left.IsReadable) ∧ (right.table = s.table ∧ right.IsReadable) ∧
      ∃ l r, definition.get? left.column = some l ∧ s.definition.get? right.column = some r ∧
        l.kind = r.kind ∧ (r.nullable = true → l.nullable = true)

/-- The call that asks for this condition. -/
def call : JoinPredicate → Checked.JoinCall
  | .compare column operator value => .compare column.column operator value
  | .compareColumns left operator right => .compareColumns left.text operator right.text

end JoinPredicate

/-! ## What the rules let through -/

theorem Value.fits_iff (v : Value) (d : ColumnDef) :
    v.Fits d ↔ (v = .null ∧ d.nullable = true) ∨ v.kind? = some d.kind ∨
      ((∃ n, v = .int32 n) ∧ d.kind = .float) := by
  cases v with
  | null => simp [Value.Fits, Value.kind?]
  | int32 n =>
    constructor
    · intro h
      rcases h with h | h
      · exact .inr (.inl (congrArg some h.symm))
      · exact .inr (.inr ⟨⟨n, rfl⟩, h⟩)
    · intro h
      rcases h with ⟨h, -⟩ | h | ⟨-, h⟩
      · cases h
      · exact .inl (Option.some.inj h).symm
      · exact .inr h
  | _ => simp [Value.Fits, Value.kind?]

namespace Checked

theorem lookup_eq_ok_iff {definition : TableDef} {table column : String} {d : ColumnDef} :
    lookup definition table column = .ok d ↔ definition.get? column = some d := by
  unfold lookup
  cases definition.get? column with
  | none => simp
  | some d' => simp

theorem checkValue_eq_ok_iff {table column : String} {d : ColumnDef} {v : Value} {u : Unit} :
    checkValue table column d v = .ok u ↔ v.AdmissibleIn d := by
  rw [Value.AdmissibleIn, ← Value.fits_iff, checkValue]
  cases hv : v.isFinite with
  | false => simp
  | true =>
    by_cases hf : v.Fits d
    · simp [hf]
    · simp [hf]

theorem checkComparable_eq_ok_iff {left right : Reference} {l r : ColumnDef} {u : Unit} :
    checkComparable left l right r = .ok u ↔
      l.kind = r.kind ∧ (r.nullable = true → l.nullable = true) := by
  unfold checkComparable
  by_cases hc : l.Comparable r
  · rw [if_pos hc]
    exact ⟨fun _ => hc, fun _ => rfl⟩
  · rw [if_neg hc]
    exact ⟨fun h => (by cases h), fun h => absurd h hc⟩

theorem checkTable_eq_ok_iff {r : Reference} {table : String} {u : Unit} :
    checkTable r table = .ok u ↔ r.table = table := by
  unfold checkTable
  by_cases h : r.table = table <;> simp [h]

namespace Scope

theorem column_eq_ok_iff {s : Scope} {name : String} {d : ColumnDef} :
    s.column name = .ok d ↔ s.definition.get? name = some d :=
  lookup_eq_ok_iff

theorem checkNullable_eq_ok_iff {s : Scope} {column : String} {u : Unit} :
    s.checkNullable column = .ok u ↔
      ∃ d, s.definition.get? column = some d ∧ d.nullable = true := by
  rw [checkNullable, bind_eq_ok_iff]
  constructor
  · intro h
    obtain ⟨d, hd, h⟩ := h
    refine ⟨d, column_eq_ok_iff.1 hd, ?_⟩
    cases hn : d.nullable with
    | true => rfl
    | false => simp [hn] at h
  · intro h
    obtain ⟨d, hd, hn⟩ := h
    exact ⟨d, column_eq_ok_iff.2 hd, by rw [if_pos hn]⟩

theorem checkPredicate_eq_ok_iff {s : Scope} {p : Predicate} {u : Unit} :
    s.checkPredicate p = .ok u ↔ p.WellFormed s.definition := by
  cases p with
  | compare column operator value =>
    simp only [checkPredicate, bind_eq_ok_iff, column_eq_ok_iff, checkValue_eq_ok_iff,
      Predicate.WellFormed]
  | isNull column => exact checkNullable_eq_ok_iff
  | isNotNull column => exact checkNullable_eq_ok_iff
  | compareColumns left operator right =>
    simp only [checkPredicate, bind_eq_ok_iff, column_eq_ok_iff, Predicate.WellFormed]
    by_cases hlr : left = right
    · simp [hlr]
    · simp only [if_neg hlr, checkComparable_eq_ok_iff]
      constructor
      · intro h
        obtain ⟨l, hl, r, hr, hc⟩ := h
        exact ⟨hlr, l, r, hl, hr, hc⟩
      · intro h
        obtain ⟨-, l, r, hl, hr, hc⟩ := h
        exact ⟨l, hl, r, hr, hc⟩

/-- A join call that passes and the condition that it gives determine each other. -/
theorem joinPredicate_eq_ok_iff {s : Scope} {table : String} {definition : TableDef}
    {c : JoinCall} {p : JoinPredicate} :
    s.joinPredicate table definition c = .ok p ↔
      c = p.call ∧ p.WellFormed s table definition := by
  cases c with
  | compare column operator value =>
    simp only [joinPredicate, bind_eq_ok_iff, lookup_eq_ok_iff, checkValue_eq_ok_iff]
    constructor
    · intro h
      obtain ⟨d, hd, u, hv, hp⟩ := h
      cases hp
      exact ⟨rfl, rfl, d, hd, hv⟩
    · intro h
      obtain ⟨hcall, hwf⟩ := h
      cases p with
      | compareColumns _ _ _ => cases hcall
      | compare found _ _ =>
        cases hcall
        obtain ⟨htable, d, hd, hv⟩ := hwf
        refine ⟨d, hd, (), hv, ?_⟩
        cases found
        cases htable
        rfl
  | compareColumns left operator right =>
    simp only [joinPredicate, bind_eq_ok_iff, Reference.parse_eq_ok_iff, checkTable_eq_ok_iff,
      lookup_eq_ok_iff, column_eq_ok_iff, checkComparable_eq_ok_iff]
    constructor
    · intro h
      obtain ⟨l, ⟨rfl, hl⟩, r, ⟨rfl, hr⟩, -, hlt, -, hrt, ld, hld, rd, hrd, -, hc, hp⟩ := h
      cases hp
      exact ⟨rfl, ⟨hlt, hl⟩, ⟨hrt, hr⟩, ld, rd, hld, hrd, hc⟩
    · intro h
      obtain ⟨hcall, hwf⟩ := h
      cases p with
      | compare _ _ _ => cases hcall
      | compareColumns l _ r =>
        cases hcall
        obtain ⟨⟨hlt, hl⟩, ⟨hrt, hr⟩, ld, rd, hld, hrd, hc⟩ := hwf
        exact ⟨l, ⟨rfl, hl⟩, r, ⟨rfl, hr⟩, (), hlt, (), hrt, ld, hld, rd, hrd, (), hc, rfl⟩

end Scope
end Checked
end CheckedSelect
