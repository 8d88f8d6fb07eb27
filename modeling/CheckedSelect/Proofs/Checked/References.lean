import CheckedSelect.Proofs.Checked.Accumulation

/-!
# CheckedSelect.Proofs.Checked.References

Which texts are references, and what a join makes of them.

* `parse_eq_error_iff`: every other text is refused, and the refusal shows it.
* `joinPredicate_columns`: a condition between two columns shows both references as they were given,
  and they name the two tables of the join.
* `joinConditions_concat`: a further condition is appended to those before it.
* `references_exact`: reading and showing undo each other on the names that a text can carry, and on
  the conditions of every join.
-/

namespace CheckedSelect

namespace Reference

theorem parse_eq_error_iff {raw : String} {cause : Rejection} :
    parse raw = .error cause ↔
      cause = .invalidQuery (.notQualified raw) ∧ ∀ q : Reference, ¬ (raw = q.text ∧ q.IsReadable) := by
  have hread : ∀ q : Reference, ofText? raw = some q ↔ raw = q.text ∧ q.IsReadable :=
    fun _ => ofText?_eq_some_iff
  unfold parse
  cases h : ofText? raw with
  | some q =>
    constructor
    · intro herror
      cases herror
    · rintro ⟨-, hnone⟩
      exact absurd ((hread q).1 h) (hnone q)
  | none =>
    constructor
    · intro herror
      cases herror
      refine ⟨rfl, ?_⟩
      intro q hq
      cases h.symm.trans ((hread q).2 hq)
    · rintro ⟨rfl, -⟩
      rfl

theorem parse_text_iff {q : Reference} : parse q.text = .ok q ↔ q.IsReadable := by
  rw [parse_eq_ok_iff]
  exact and_iff_right rfl

/-- The first dot is where both were split. -/
theorem eq_of_text_eq {q r : Reference} (hq : q.IsReadable) (hr : r.IsReadable)
    (h : q.text = r.text) : q = r := by
  have hread := parse_text hq
  rw [h, parse_text hr] at hread
  exact (Except.ok.inj hread).symm

end Reference

namespace Checked

/-- The two references of a condition, as they are shown, in a join of `table` with `joined`. -/
structure ShownAs (table joined left right : String) (l r : Reference) : Prop where
  left : l.text = left
  right : r.text = right
  joined : l.table = joined
  origin : r.table = table

namespace Scope

variable {s : Scope} {joined : String} {definition : TableDef}

/-- A table with a dot in its name is none that a reference names. -/
theorem joinPredicate_columns {left right : String} {operator : Operator} {p : JoinPredicate}
    (h : s.joinPredicate joined definition (.compareColumns left operator right) = .ok p) :
    ∃ l r, p = .compareColumns l operator r ∧ ShownAs s.table joined left right l r ∧
      '.' ∉ joined.toList ∧ '.' ∉ s.table.toList := by
  obtain ⟨hcall, hwf⟩ := joinPredicate_eq_ok_iff.1 h
  cases p with
  | compare _ _ _ => cases hcall
  | compareColumns l _ r =>
    cases hcall
    obtain ⟨⟨hl, -, hldot, -⟩, ⟨hr, -, hrdot, -⟩, -⟩ := hwf
    exact ⟨l, r, rfl, ⟨rfl, rfl, hl, hr⟩, hl ▸ hldot, hr ▸ hrdot⟩

theorem joinConditions_concat {calls : List (Linked JoinCall)} {c : Linked JoinCall}
    {conditions : List (Linked JoinPredicate)}
    (h : s.joinConditions joined definition (calls ++ [c]) = .ok conditions) :
    ∃ before p, s.joinConditions joined definition calls = .ok before ∧
      s.joinPredicate joined definition c.condition = .ok p ∧
      conditions = before ++ [⟨c.relation, p⟩] := by
  unfold joinConditions at h
  rw [List.mapM_append, bind_eq_ok_iff] at h
  obtain ⟨before, hbefore, h⟩ := h
  obtain ⟨last, hlast, h⟩ := bind_eq_ok_iff.1 h
  rw [List.mapM_cons, List.mapM_nil] at hlast
  obtain ⟨l, hl, hlast⟩ := bind_eq_ok_iff.1 hlast
  obtain ⟨p, hp, hl⟩ := bind_eq_ok_iff.1 hl
  cases hl
  cases hlast
  cases h
  exact ⟨before, p, hbefore, hp, rfl⟩

end Scope

/-- A whole join has one condition for each call, in order. -/
theorem Builder.apply_join {b b' : Builder} {kind : JoinKind} {joined : String}
    {calls : List (Linked JoinCall)} (h : b.apply (.join kind joined calls) = .ok b') :
    ∃ j, b'.query = b.query.add (.join j) ∧ AsksJoin b.scope.table (kind, joined, calls) j := by
  obtain ⟨a, ⟨hcall, hwf⟩, rfl⟩ := Builder.apply_eq_ok_iff.1 h
  cases a with
  | selection _ => cases hcall
  | filter _ => cases hcall
  | join j =>
    cases hcall
    exact ⟨j, rfl, asksJoin_call hwf⟩

/-- A text is read as a reference exactly when it is a table without a dot, a dot and a column, none
of them empty, and is refused otherwise. So each text is split in one way, the references with such
names are read from their own text, and each condition that a join appends for two references shows
them as they were given, the left one in the joined table and the right one in the first. -/
theorem references_exact :
    (∀ (raw : String) (q : Reference), Reference.parse raw = .ok q ↔
      raw = q.table ++ "." ++ q.column ∧
        q.table ≠ "" ∧ '.' ∉ q.table.toList ∧ q.column ≠ "") ∧
    (∀ (raw : String) (cause : Rejection), Reference.parse raw = .error cause ↔
      cause = .invalidQuery (.notQualified raw) ∧
        ∀ q : Reference, ¬ (raw = q.text ∧ q.IsReadable)) ∧
    (∀ q r : Reference, q.IsReadable → r.IsReadable → q.text = r.text → q = r) ∧
    (∀ q : Reference, Reference.parse q.text = .ok q ↔ q.IsReadable) ∧
    (∀ (s : Scope) (joined : String) (definition : TableDef) (calls : List (Linked JoinCall))
      (relation : Relation) (left right : String) (operator : Operator)
      (conditions : List (Linked JoinPredicate)),
      s.joinConditions joined definition
          (calls ++ [⟨relation, .compareColumns left operator right⟩]) = .ok conditions →
      ∃ before l r, s.joinConditions joined definition calls = .ok before ∧
        conditions = before ++ [⟨relation, .compareColumns l operator r⟩] ∧
        ShownAs s.table joined left right l r ∧
        '.' ∉ joined.toList ∧ '.' ∉ s.table.toList) ∧
    (∀ (b b' : Builder) (kind : JoinKind) (joined : String) (calls : List (Linked JoinCall)),
      b.apply (.join kind joined calls) = .ok b' →
      ∃ j, b'.query = b.query.add (.join j) ∧
        AsksJoin b.scope.table (kind, joined, calls) j) := by
  refine ⟨fun _ _ => Reference.parse_eq_ok_iff, fun _ _ => Reference.parse_eq_error_iff,
    fun _ _ => Reference.eq_of_text_eq, fun _ => Reference.parse_text_iff, ?_,
    fun _ _ _ _ _ => Builder.apply_join⟩
  intro s joined definition calls relation left right operator conditions h
  obtain ⟨before, p, hbefore, hp, hconditions⟩ := Scope.joinConditions_concat h
  obtain ⟨l, r, rfl, hshown, hdots⟩ := Scope.joinPredicate_columns hp
  exact ⟨before, l, r, hbefore, hconditions, hshown, hdots⟩

namespace Dotted

def readings : TableDef := (TableDef.empty.column "at.hour" .integer).column "value" .float

def sensors : TableDef := TableDef.empty.column "hour" .integer

def schema : Schema :=
  ((Schema.empty.table "readings" readings).table "sensors" sensors).table "sensors.old" sensors

def onSensors : Builder := ⟨⟨schema, "sensors", sensors⟩, { table := "sensors" }⟩

def started : Linked JoinCall := ⟨.and, .compare "value" .greater (.int32 0)⟩

def atHour : Linked JoinCall :=
  ⟨.or, .compareColumns "readings.at.hour" .equal "sensors.hour"⟩

/-- A dot in a column is part of it; a dot in a table is read as the end of another table. -/
theorem dotted_column_and_table :
    (Reference.mk "readings" "at.hour").IsReadable ∧
    Reference.parse "readings.at.hour" = .ok ⟨"readings", "at.hour"⟩ ∧
    Reference.parse (Reference.mk "sensors.old" "hour").text ≠ .ok ⟨"sensors.old", "hour"⟩ ∧
    (∃ conditions before l r,
      onSensors.scope.joinConditions "readings" readings [started, atHour] = .ok conditions ∧
      onSensors.scope.joinConditions "readings" readings [started] = .ok before ∧
      conditions = before ++ [⟨.or, .compareColumns l .equal r⟩] ∧
      ShownAs "sensors" "readings" "readings.at.hour" "sensors.hour" l r) ∧
    (∃ b j, onSensors.apply (.join .left "readings" [started, atHour]) = .ok b ∧
      b.query = onSensors.query.add (.join j) ∧
      AsksJoin "sensors" (.left, "readings", [started, atHour]) j) := by
  obtain ⟨hread, -, -, hshow, hcondition, hjoin⟩ := references_exact
  have hreadable : (Reference.mk "readings" "at.hour").IsReadable := by
    refine ⟨?_, ?_, ?_⟩ <;> decide
  refine ⟨hreadable, (hread _ _).2 ⟨rfl, hreadable⟩, ?_, ?_, ?_⟩
  · intro hparse
    exact ((hshow _).1 hparse).2.1 (by decide)
  · have hok : onSensors.scope.joinConditions "readings" readings ([started] ++ [atHour]) =
        .ok _ := rfl
    obtain ⟨before, l, r, hbefore, hconditions, hshown, -⟩ := hcondition _ _ _ _ _ _ _ _ _ hok
    exact ⟨_, before, l, r, hok, hbefore, hconditions, hshown⟩
  · have hok : onSensors.apply (.join .left "readings" [started, atHour]) = .ok _ := rfl
    obtain ⟨j, hquery, hasks⟩ := hjoin _ _ _ _ _ hok
    exact ⟨_, j, hok, hquery, hasks⟩

end Dotted

end Checked
end CheckedSelect
