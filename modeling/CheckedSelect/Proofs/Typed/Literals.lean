import CheckedSelect.Proofs.Floating.Whole
import CheckedSelect.Proofs.Typed.Acceptance
import CheckedSelect.Query.Rendering

/-!
# CheckedSelect.Proofs.Typed.Literals

One literal beside one column, through both builders. The typed one stores it as the type of the
column has it, the checked one at its own width.

* `Literal.Stored`: what a column stores of a literal that the checked builder lets through.
* `Literal.ReadAlike`: the only literals in question are narrow floats beside wide columns, and the
  two texts are then those of two numbers of different formats.
* `same_text_iff`: the conditions that the builders append have the same text exactly for the
  literals that are read alike.
-/

namespace CheckedSelect

namespace Value

/-- Without quotes around it, a literal is its text under all options. -/
theorem literal_eq_iff_body {v w : Value} (hv : v.isStringLike = false)
    (hw : w.isStringLike = false) :
    (∀ quoteStrings, v.literal quoteStrings = w.literal quoteStrings) ↔ v.body = w.body := by
  constructor
  · intro h
    have htext := h false
    unfold literal at htext
    exact String.ofList_inj.1 htext
  · intro h quoteStrings
    simp [literal, hv, hw, h]

end Value

namespace Typed

variable {t other : Table}

namespace Literal

/-! ## What is stored -/

/-- The value that a column which is not nullable stores of a literal, where the kinds of the two
let them meet. -/
inductive Stored : Literal → (b : SqlType) → b.Carrier → Prop where
  | same (b : SqlType) (x : b.Carrier) : Stored (.some b x) b x
  | long (n : Int32) : Stored (.some .int32 n) .int64 n.toInt64
  | whole (n : Int32) : Stored (.some .int32 n) .float64 (Floating.ofInt .binary64 n.toInt)
  | wide (x : Binary32) : Stored (.some .float32 x) .float64 (x.convert .binary64)

theorem stored_of_convertBase? {x : Literal} {b : SqlType} {y : b.Carrier}
    (hy : x.convertBase? b = Option.some y) (hfits : x.toValue.Fits ⟨b.kind, false⟩) :
    Stored x b y := by
  unfold convertBase? at hy
  -- Each clause keeps the literal, widens it, or leads to a kind that the literal does not fit.
  split at hy <;> first
    | (simp [Value.Fits, toValue, SqlType.toValue, SqlType.kind, Value.kind?] at hfits; done)
    | (cases hy; constructor)
    | cases hy

/-- The digits that a narrow float is written with are those of the number that a wide column
stores. -/
def ReadAlike : Literal → ColumnType → Prop
  | .some .float32 x, ⟨.float64, false⟩ =>
    (x.digits .away).toFloating .binary64 x.negative = x.convert .binary64
  | _, _ => True

theorem write_whole (n : Int32) :
    FloatLayout.sql.write (Floating.ofInt .binary64 n.toInt) = Json.intText n.toInt := by
  have hlow : -2147483648 ≤ n.toInt := n.le_toInt
  have hhigh : n.toInt < 2147483648 := n.toInt_lt
  have hbinade : 2 * FloatFormat.binary64.binade = 9007199254740992 := rfl
  exact FloatLayout.write_ofInt (by decide) (by decide +kernel) (by omega)

theorem Stored.body_eq_iff {x : Literal} {b : SqlType} {y : b.Carrier} (h : Stored x b y)
    (hfinite : x.toValue.isFinite = true) :
    (b.toValue y).body = x.toValue.body ↔ x.ReadAlike ⟨b, false⟩ := by
  cases h with
  | same b x =>
    refine ⟨fun _ => ?_, fun _ => rfl⟩
    cases b <;> trivial
  | long n =>
    refine ⟨fun _ => trivial, fun _ => ?_⟩
    exact congrArg Json.intText (Int32.toInt_toInt64 n)
  | whole n => exact ⟨fun _ => trivial, fun _ => write_whole n⟩
  | wide x => exact FloatLayout.write_convert_eq_iff FloatFormat.binary32_widens hfinite

theorem Stored.literal_eq_iff {x : Literal} {b : SqlType} {y : b.Carrier} (h : Stored x b y)
    (hfinite : x.toValue.isFinite = true) :
    (∀ quoteStrings, (b.toValue y).literal quoteStrings = x.toValue.literal quoteStrings) ↔
      x.ReadAlike ⟨b, false⟩ := by
  have hbody := h.body_eq_iff hfinite
  cases h with
  | same b x => exact ⟨fun _ => hbody.1 rfl, fun _ _ => rfl⟩
  | long n => exact (Value.literal_eq_iff_body rfl rfl).trans hbody
  | whole n => exact (Value.literal_eq_iff_body rfl rfl).trans hbody
  | wide x => exact (Value.literal_eq_iff_body rfl rfl).trans hbody

/-- A nullable column stores its own type and the null as they are. -/
theorem toValue_of_convert?_optional {x : Literal} {b : SqlType} {y : Option b.Carrier}
    (hy : x.convert? ⟨b, true⟩ = Option.some y) :
    (ColumnType.optional b).toValue y = x.toValue := by
  cases x with
  | null =>
    cases hy
    rfl
  | some b' x =>
    have hsame : (if h : b' = b then Option.some (Option.some (h ▸ x)) else none) = Option.some y := hy
    split at hsame
    · next heq =>
      subst heq
      cases hsame
      rfl
    · cases hsame

theorem readAlike_optional (x : Literal) (b : SqlType) : x.ReadAlike ⟨b, true⟩ := by
  unfold ReadAlike
  split
  · next heq => cases heq
  · trivial

theorem literal_eq_iff {x : Literal} {type : ColumnType} {y : type.Carrier}
    (hy : x.convert? type = Option.some y) (hx : x.toValue.AdmissibleIn type.definition) :
    (∀ quoteStrings, (type.toValue y).literal quoteStrings = x.toValue.literal quoteStrings) ↔
      x.ReadAlike type := by
  have hfits := (Value.fits_iff _ _).2 hx.2
  match type, y, hy, hfits with
  | ⟨b, false⟩, y, hy, hfits => exact (stored_of_convertBase? hy hfits).literal_eq_iff hx.1
  | ⟨b, true⟩, y, hy, hfits =>
    have hvalue := toValue_of_convert?_optional hy
    refine ⟨fun _ => x.readAlike_optional b, fun _ quoteStrings => ?_⟩
    exact congrArg (Value.literal quoteStrings) hvalue

end Literal

/-! ## Conditions -/

theorem comparison_eq_iff (left : String) (operator : Operator) (right right' : String) :
    comparison left operator right = comparison left operator right' ↔ right = right' :=
  String.append_right_inj _

theorem Linked.render_eq_iff {α β : Type} (f : α → String) (g : β → String) (relation : Relation)
    (a : α) (b : β) :
    (Linked.mk relation a).render f = (Linked.mk relation b).render g ↔ f a = g b :=
  String.append_right_inj _

/-- Every way of writing strings occurs in some options. -/
theorem forall_options_iff {v w : Value} :
    (∀ o : RenderOptions, v.literal o.quoteStrings = w.literal o.quoteStrings) ↔
      ∀ quoteStrings, v.literal quoteStrings = w.literal quoteStrings :=
  ⟨fun h quoteStrings => h ⟨true, quoteStrings⟩, fun h o => h o.quoteStrings⟩

section

variable {s : Schema} {x : Literal} {operator : Operator} {relation : Relation}

theorem filter_text_iff {c : t.Column} {y : c.type.Carrier} (hy : x.convert? c.type = some y)
    (hx : x.toValue.AdmissibleIn c.type.definition) :
    (∀ o, (Linked.mk relation (Predicate.untyped (.compare c operator y))).render
        (CheckedSelect.Predicate.render o) =
      (Linked.mk relation (CheckedSelect.Predicate.compare c.name operator x.toValue)).render
        (CheckedSelect.Predicate.render o)) ↔ x.ReadAlike c.type := by
  rw [← Literal.literal_eq_iff hy hx, ← forall_options_iff]
  refine forall_congr' fun o => ?_
  rw [Linked.render_eq_iff]
  exact comparison_eq_iff _ _ _ _

theorem on_text_iff {c : other.Column} {y : c.type.Carrier} (hy : x.convert? c.type = some y)
    (hx : x.toValue.AdmissibleIn c.type.definition) :
    (∀ o, (Linked.mk relation (JoinCall.untyped (.compare c operator y : JoinCall t other))).render
        (JoinPredicate.render o) =
      (Linked.mk relation (JoinPredicate.compare c.reference operator x.toValue)).render
        (JoinPredicate.render o)) ↔ x.ReadAlike c.type := by
  rw [← Literal.literal_eq_iff hy hx, ← forall_options_iff]
  refine forall_congr' fun o => ?_
  rw [Linked.render_eq_iff]
  exact comparison_eq_iff _ _ _ _

/-- What the checked builder appends for a literal that it accepts. -/
theorem appended_of_apply {c : t.Column} {d next : Checked.Builder}
    (hd : d.scope = ⟨s, t.name, t.definition⟩)
    (h : d.apply (.filter ⟨relation, .compare c.name operator x.toValue⟩) = .ok next) :
    next.query.filters = d.query.filters ++ [⟨relation, .compare c.name operator x.toValue⟩] ∧
    x.toValue.AdmissibleIn c.type.definition := by
  obtain ⟨a, ⟨hcall, hwf⟩, rfl⟩ := Checked.Builder.apply_eq_ok_iff.1 h
  cases a with
  | selection chosen => cases chosen <;> cases hcall
  | join j => cases hcall
  | filter clause =>
    cases hcall
    rw [hd] at hwf
    obtain ⟨definition, hdefinition, hadmissible⟩ := hwf
    rw [c.get?_definition] at hdefinition
    cases hdefinition
    exact ⟨rfl, hadmissible⟩

theorem appended_of_joinPredicate {c : other.Column} {q : JoinPredicate}
    (h : (⟨s, t.name, t.definition⟩ : Checked.Scope).joinPredicate other.name other.definition
      (.compare c.name operator x.toValue) = .ok q) :
    q = .compare c.reference operator x.toValue ∧
    x.toValue.AdmissibleIn c.type.definition := by
  obtain ⟨hcall, hwf⟩ := Checked.Scope.joinPredicate_eq_ok_iff.1 h
  cases q with
  | compareColumns left operator right => cases hcall
  | compare column operator value =>
    obtain ⟨table, column⟩ := column
    cases hcall
    obtain ⟨rfl, definition, hdefinition, hadmissible⟩ := hwf
    rw [c.get?_definition] at hdefinition
    cases hdefinition
    exact ⟨rfl, hadmissible⟩

/-- One literal beside one column, as a filter and as a condition of a join: where its type converts
to that of the column and the checked builder accepts it, the two builders append conditions of the
same text, unless it is a narrow float beside a wide column that reads its digits as another
number. -/
theorem same_text_iff (s : Schema) (t other : Table) (x : Literal) (operator : Operator)
    (relation : Relation) :
    (∀ (c : t.Column) (y : c.type.Carrier) (b : Builder t) (d next : Checked.Builder),
      x.convert? c.type = some y → d.scope = ⟨s, t.name, t.definition⟩ →
      d.apply (.filter ⟨relation, .compare c.name operator x.toValue⟩) = .ok next →
      ∃ typed checked,
        (b.apply (.filter ⟨relation, .compare c operator y⟩)).query.filters =
          b.query.filters ++ [typed] ∧
        next.query.filters = d.query.filters ++ [checked] ∧
        ((∀ o, typed.render (CheckedSelect.Predicate.render o) =
          checked.render (CheckedSelect.Predicate.render o)) ↔ x.ReadAlike c.type)) ∧
    (∀ (c : other.Column) (y : c.type.Carrier) (q : JoinPredicate),
      x.convert? c.type = some y →
      (⟨s, t.name, t.definition⟩ : Checked.Scope).joinPredicate other.name other.definition
        (.compare c.name operator x.toValue) = .ok q →
      ((∀ o, (Linked.mk relation
          (JoinCall.untyped (.compare c operator y : JoinCall t other))).render
            (JoinPredicate.render o) =
        (Linked.mk relation q).render (JoinPredicate.render o)) ↔ x.ReadAlike c.type)) := by
  constructor
  · intro c y b d next hy hd hnext
    obtain ⟨hfilters, hadmissible⟩ := appended_of_apply hd hnext
    exact ⟨_, _, rfl, hfilters, filter_text_iff hy hadmissible⟩
  · intro c y q hy hq
    obtain ⟨rfl, hadmissible⟩ := appended_of_joinPredicate hq
    exact on_text_iff hy hadmissible

end

/-! ## A wide column -/

namespace Metrics

def metrics : Table where
  name := "metrics"
  columns := [("value", .required .float64)]
  isName := by decide
  areNames := by decide
  distinct := by decide

def sensors : Table where
  name := "sensors"
  columns := []
  isName := by decide
  areNames := by decide
  distinct := by decide

def schema : Schema := [sensors, metrics].foldl Schema.withTable Schema.empty

def value : metrics.Column := ⟨"value", .required .float64, by decide⟩

def start : Checked.Builder := ⟨⟨schema, "metrics", metrics.definition⟩, { table := "metrics" }⟩

/-- The narrow float nearest to a tenth. -/
def tenth : Binary32 := Floating.ofBits .binary32 0x3DCCCCCD

def half : Binary32 := Floating.ofBits .binary32 0x3F000000

/-- The condition as the typed builder appends it. -/
def typedAbove (x : Binary32) : Linked CheckedSelect.Predicate :=
  ⟨.and, Predicate.untyped (.compare value .greater (x.convert .binary64))⟩

/-- The same condition asked for by name, and as the checked builder appends it. -/
def checkedAbove (x : Binary32) : Linked CheckedSelect.Predicate :=
  ⟨.and, .compare "value" .greater (.float32 x)⟩

theorem apply_checkedAbove {x : Binary32} (h : x.isFinite = true) :
    ∃ next, start.apply (.filter (checkedAbove x)) = .ok next ∧
      next.query.filters = [checkedAbove x] := by
  refine ⟨_, Checked.Builder.apply_eq_ok_iff.2 ⟨.filter (checkedAbove x), ⟨rfl, ?_⟩, rfl⟩, rfl⟩
  exact ⟨value.type.definition, value.get?_definition, h, .inr (.inl rfl)⟩

/-- The float is accepted and keeps its width in the checked builder alone, so a tenth has more
digits in the typed one. -/
theorem tenth_written_apart :
    (Literal.some .float32 tenth).convert? value.type = some (tenth.convert .binary64) ∧
    (∃ next, start.apply (.filter (checkedAbove tenth)) = .ok next ∧
      next.query.filters = [checkedAbove tenth]) ∧
    (typedAbove tenth).render (CheckedSelect.Predicate.render {}) =
      " AND `value` > 0.10000000149011612" ∧
    (checkedAbove tenth).render (CheckedSelect.Predicate.render {}) = " AND `value` > 0.1" :=
  ⟨rfl, apply_checkedAbove (by decide), by decide +kernel, by decide +kernel⟩

theorem half_readAlike : (Literal.some .float32 half).ReadAlike value.type := by
  show (half.digits .away).toFloating .binary64 half.negative = half.convert .binary64
  decide +kernel

/-- A half is read alike, so both builders write it as `0.5` under all options, beside a column of
the first table and of a joined one. -/
theorem half_written_alike :
    (∃ next, start.apply (.filter (checkedAbove half)) = .ok next) ∧
    (∀ o, (typedAbove half).render (CheckedSelect.Predicate.render o) =
      (checkedAbove half).render (CheckedSelect.Predicate.render o)) ∧
    ∃ q, (⟨schema, "sensors", sensors.definition⟩ : Checked.Scope).joinPredicate "metrics"
        metrics.definition (.compare "value" .greater (.float32 half)) = .ok q ∧
      ∀ o, (Linked.mk .and (JoinPredicate.compare value.reference .greater
          (.float64 (half.convert .binary64)))).render (JoinPredicate.render o) =
        (Linked.mk .and q).render (JoinPredicate.render o) := by
  obtain ⟨next, hnext, hfilters⟩ := apply_checkedAbove (x := half) (by decide)
  obtain ⟨typed, checked, htyped, hchecked, hfilter⟩ :=
    (same_text_iff schema metrics metrics (.some .float32 half) .greater .and).1 value
      (half.convert .binary64) (Builder.start metrics) start next rfl rfl hnext
  rw [hfilters] at hchecked
  cases hchecked
  cases htyped
  have haccepted : (⟨schema, "sensors", sensors.definition⟩ : Checked.Scope).joinPredicate
      "metrics" metrics.definition (.compare "value" .greater (.float32 half)) =
        .ok (.compare value.reference .greater (.float32 half)) :=
    Checked.Scope.joinPredicate_eq_ok_iff.2
      ⟨rfl, rfl, value.type.definition, value.get?_definition, rfl, .inr (.inl rfl)⟩
  have hon := (same_text_iff schema sensors metrics (.some .float32 half) .greater .and).2 value
    (half.convert .binary64) _ rfl haccepted
  exact ⟨⟨next, hnext⟩, hfilter.2 half_readAlike, _, haccepted, hon.2 half_readAlike⟩

end Metrics

end Typed
end CheckedSelect
