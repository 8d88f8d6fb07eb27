import CheckedSelect.Proofs.Checked.Acceptance
import CheckedSelect.Proofs.NameMap
import CheckedSelect.Typed.Builder

/-!
# CheckedSelect.Proofs.Typed.Acceptance

What the checked builder makes of a typed call, when it is asked by name.

* `Step.asked`: a typed call as a call of the checked builder, columns replaced by their names and
  values by the literals that are stored.
* `Step.literals`, `nonFinite?`: the literals of a call, and the column of the first one that is
  not finite.
* `accept_asked`: finiteness is all that is left to check of a typed call. Every other rule is
  implied by the types.
-/

namespace CheckedSelect

/-- The schema has the table as it is declared. -/
def Schema.Holds (s : Schema) (t : Typed.Table) : Prop := s.get? t.name = some t.definition

namespace Typed

variable {t other : Table}

/-! ## Typed calls by name -/

namespace JoinCall

/-- Two columns are named together with their tables. -/
def asked : JoinCall t other → Checked.JoinCall
  | .compare column operator value => .compare column.name operator (column.type.toValue value)
  | .compareColumns left operator right _ =>
    .compareColumns left.reference.text operator right.reference.text

def literals : JoinCall t other → List (Reference × Value)
  | .compare column _ value => [(column.reference, column.type.toValue value)]
  | .compareColumns .. => []

end JoinCall

namespace Predicate

def asked : Predicate t → CheckedSelect.Predicate
  | .compare column operator value => .compare column.name operator (column.type.toValue value)
  | .isNull column _ => .isNull column.name
  | .isNotNull column _ => .isNotNull column.name
  | .compareColumns left operator right _ _ => .compareColumns left.name operator right.name

def literals : Predicate t → List (Reference × Value)
  | .compare column _ value => [(column.reference, column.type.toValue value)]
  | _ => []

end Predicate

def Selection.asked : Selection t → List String
  | .all => ["*"]
  | .columns first rest => (first :: rest).map Table.Column.name

namespace Step

def asked : Step t → Checked.Step
  | .select selection => .select selection.asked
  | .filter clause => .filter (clause.map Predicate.asked)
  | .join kind other _ calls => .join kind other.name (calls.map (Linked.map JoinCall.asked))

/-- The literals of a call in their order, each with the column it stands beside. -/
def literals : Step t → List (Reference × Value)
  | .select _ => []
  | .filter clause => clause.condition.literals
  | .join _ _ _ calls => calls.flatMap fun c => c.condition.literals

/-- The tables that a call brings in. -/
def joined : Step t → List Table
  | .join _ other _ _ => [other]
  | _ => []

end Step

/-! ## The one rule left -/

/-- The column of the first literal that is not finite. -/
def nonFinite? (literals : List (Reference × Value)) : Option Reference :=
  (literals.find? fun l => !l.2.isFinite).map Prod.fst

/-- The check of finiteness alone. -/
def checkFinite (literals : List (Reference × Value)) : Except Rejection Unit :=
  match nonFinite? literals with
  | some column => .error (.invalidQuery (.nonFinite column))
  | none => .ok ()

theorem checkFinite_append (before after : List (Reference × Value)) :
    checkFinite (before ++ after) = (checkFinite before >>= fun _ => checkFinite after) := by
  unfold checkFinite nonFinite?
  rw [List.find?_append]
  cases before.find? fun l => !l.2.isFinite with
  | none => rfl
  | some l => rfl

/-! ## Values and columns -/

theorem SqlType.kind?_toValue (b : SqlType) (x : b.Carrier) : (b.toValue x).kind? = some b.kind := by
  cases b <;> rfl

/-- What a column stores fits the column. -/
theorem ColumnType.fits_toValue (type : ColumnType) (x : type.Carrier) :
    (type.toValue x).Fits type.definition := by
  rw [Value.fits_iff]
  match type, x with
  | ⟨b, false⟩, x => exact .inr (.inl (b.kind?_toValue x))
  | ⟨b, true⟩, some x => exact .inr (.inl (b.kind?_toValue x))
  | ⟨_, true⟩, none => exact .inl ⟨rfl, rfl⟩

theorem ColumnType.AssignableTo.comparable {right left : ColumnType}
    (h : right.AssignableTo left) :
    left.definition.kind = right.definition.kind ∧
      (right.definition.nullable = true → left.definition.nullable = true) :=
  ⟨congrArg SqlType.kind h.1.symm, h.2⟩

namespace Table.Column

theorem isName (c : t.Column) : IsName c.name :=
  t.areNames (c.name, c.type) c.declared

theorem get?_definition (c : t.Column) :
    t.definition.get? c.name = some c.type.definition :=
  NameMap.get?_ofList_map_of_mem t.distinct c.declared

/-- Declared names can be written as one text and read again. -/
theorem isReadable_reference (c : t.Column) : c.reference.IsReadable :=
  ⟨t.isName.1, t.isName.2.1, c.isName.1⟩

theorem ne_star (c : t.Column) : c.name ≠ "*" := by
  intro h
  have hstar := c.isName.2.2
  rw [h] at hstar
  exact hstar (by simp)

end Table.Column

/-! ## Single calls -/

theorem checkValue_toValue (c : t.Column) (value : c.type.Carrier) :
    Checked.checkValue t.name c.name c.type.definition (c.type.toValue value) =
      checkFinite [(c.reference, c.type.toValue value)] := by
  have hfits : (c.type.toValue value).Fits c.type.definition := c.type.fits_toValue value
  unfold Checked.checkValue checkFinite nonFinite?
  cases hv : (c.type.toValue value).isFinite with
  | false =>
    rw [List.find?_cons_of_pos (by simp [hv])]
    rfl
  | true =>
    rw [List.find?_cons_of_neg (by simp [hv]), if_pos hfits]
    rfl

section

variable {s : Schema}

theorem checkPredicate_asked (p : Predicate t) :
    (⟨s, t.name, t.definition⟩ : Checked.Scope).checkPredicate p.asked =
      checkFinite p.literals := by
  cases p with
  | compare column operator value =>
    show (Checked.lookup t.definition t.name column.name >>= fun d =>
      Checked.checkValue t.name column.name d (column.type.toValue value)) = _
    rw [Checked.lookup_eq_ok_iff.2 column.get?_definition, ok_bind, checkValue_toValue]
    rfl
  | isNull column nullable =>
    exact Checked.Scope.checkNullable_eq_ok_iff.2 ⟨_, column.get?_definition, nullable⟩
  | isNotNull column nullable =>
    exact Checked.Scope.checkNullable_eq_ok_iff.2 ⟨_, column.get?_definition, nullable⟩
  | compareColumns left operator right distinct fits =>
    exact Checked.Scope.checkPredicate_eq_ok_iff.2
      ⟨distinct, _, _, left.get?_definition, right.get?_definition, fits.comparable⟩

/-- The checked builder stores what it was asked for, and that is what the typed one stores. -/
theorem asked_eq_untyped (p : Predicate t) : p.asked = p.untyped := by
  cases p <;> rfl

theorem joinPredicate_asked (c : JoinCall t other) :
    (⟨s, t.name, t.definition⟩ : Checked.Scope).joinPredicate other.name other.definition c.asked =
      (checkFinite c.literals >>= fun _ => .ok c.untyped) := by
  cases c with
  | compare column operator value =>
    show (Checked.lookup other.definition other.name column.name >>= fun d =>
      Checked.checkValue other.name column.name d (column.type.toValue value) >>= fun _ =>
        .ok (JoinPredicate.compare ⟨other.name, column.name⟩ operator
          (column.type.toValue value))) = _
    rw [Checked.lookup_eq_ok_iff.2 column.get?_definition, ok_bind, checkValue_toValue]
    rfl
  | compareColumns left operator right fits =>
    exact Checked.Scope.joinPredicate_eq_ok_iff.2
      ⟨rfl, ⟨rfl, left.isReadable_reference⟩, ⟨rfl, right.isReadable_reference⟩,
        _, _, left.get?_definition, right.get?_definition, fits.comparable⟩

/-- The first literal of the conditions that is not finite is the one that is reported. -/
theorem joinConditions_asked (calls : List (Linked (JoinCall t other))) :
    (⟨s, t.name, t.definition⟩ : Checked.Scope).joinConditions other.name other.definition
        (calls.map (Linked.map JoinCall.asked)) =
      (checkFinite (calls.flatMap fun c => c.condition.literals) >>= fun _ =>
        .ok (calls.map (Linked.map JoinCall.untyped))) := by
  unfold Checked.Scope.joinConditions
  induction calls with
  | nil => rfl
  | cons c rest ih =>
    rw [List.map_cons, List.mapM_cons, ih, List.flatMap_cons, checkFinite_append]
    have hc := joinPredicate_asked (s := s) c.condition
    show ((Checked.Scope.joinPredicate _ _ _ c.condition.asked >>= _) >>= _) = _
    rw [hc]
    cases checkFinite c.condition.literals with
    | error e => rfl
    | ok u =>
      cases checkFinite (rest.flatMap fun c => c.condition.literals) with
      | error e => rfl
      | ok u => rfl

theorem selection_asked (chosen : Selection t) :
    (⟨s, t.name, t.definition⟩ : Checked.Scope).selection chosen.asked = .ok chosen.untyped := by
  apply Checked.Scope.selection_eq_ok_iff.2
  cases chosen with
  | all => exact ⟨rfl, trivial⟩
  | columns first rest =>
    refine ⟨rfl, by simp, ?_, ?_⟩
    · intro h
      rw [List.map_cons] at h
      exact first.ne_star (List.cons.inj h).1
    · intro name hname
      obtain ⟨c, -, hc⟩ := List.mem_map.1 hname
      rw [← hc]
      exact ⟨_, c.get?_definition⟩

/-- A typed call is refused for a literal that is not finite or not at all, and what it adds is
what the typed builder adds. -/
theorem accept_asked (step : Step t) (hs : ∀ other ∈ step.joined, s.Holds other) :
    (⟨s, t.name, t.definition⟩ : Checked.Scope).accept step.asked =
      (checkFinite step.literals >>= fun _ => .ok step.addition) := by
  cases step with
  | select selection =>
    show Addition.selection <$> Checked.Scope.selection _ selection.asked = _
    rw [selection_asked]
    rfl
  | filter clause =>
    show (Checked.Scope.checkPredicate _ clause.condition.asked >>= fun _ =>
      .ok (Addition.filter (clause.map Predicate.asked))) = _
    rw [checkPredicate_asked, Linked.map, asked_eq_untyped]
    rfl
  | join kind other distinct calls =>
    have hfind : s.find other.name = .ok other.definition :=
      Schema.find_eq_ok_iff.2 (hs other List.mem_cons_self)
    show Addition.join <$> Checked.Scope.joinOf _ kind other.name _ = _
    unfold Checked.Scope.joinOf
    rw [if_neg distinct, hfind, ok_bind, joinConditions_asked]
    show _ = (checkFinite (calls.flatMap fun c => c.condition.literals) >>= fun _ => _)
    cases checkFinite (calls.flatMap fun c => c.condition.literals) with
    | error e => rfl
    | ok u => rfl

end

end Typed
end CheckedSelect
