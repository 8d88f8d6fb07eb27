import CheckedSelect.Proofs.Checked.Reachable
import CheckedSelect.Proofs.Checked.Rulebook

/-!
# CheckedSelect.Proofs.Checked.Rejections

Which calls of the checked builder are refused, and with which cause.

* `Reports`: a check fails with the cause of its first broken rule, and only then. `Reports.bind`
  puts the rules of two checks in a row.
* `accept_reports`: a call reports the rules that the rulebook lists for it.
* `rejected_iff_firstBroken`: the same for the builders that are reached in a schema.
-/

namespace CheckedSelect
namespace Checked

open Rule

/-! ## Checks that report their rules -/

/-- The check fails with the cause of the first broken rule, and passes if none is broken. -/
def Reports {α : Type} (x : Except Rejection α) (rules : List Rule) : Prop :=
  ∀ cause, x = .error cause ↔ FirstBroken rules cause

namespace Reports

variable {α β : Type} {x : Except Rejection α} {rules more : List Rule}

theorem ok (a : α) : Reports (.ok a) [] := by
  intro cause
  constructor
  · intro h
    cases h
  · intro h
    cases h

theorem rule {r : Rule} (h : ∀ cause, x = .error cause ↔ r cause) : Reports x [r] := by
  intro cause
  rw [h cause]
  constructor
  · intro hr
    exact .here hr
  · intro hr
    cases hr with
    | here hr => exact hr
    | later _ hr => cases hr

theorem not_firstBroken (h : Reports x rules) {a : α} (ha : x = .ok a) :
    ¬ ∃ cause, FirstBroken rules cause := by
  rintro ⟨cause, hc⟩
  rw [(h cause).2 hc] at ha
  cases ha

theorem exists_ok (h : Reports x rules) (hnone : ¬ ∃ cause, FirstBroken rules cause) :
    ∃ a, x = .ok a := by
  cases hx : x with
  | ok a => exact ⟨a, rfl⟩
  | error cause => exact absurd ⟨cause, (h cause).1 hx⟩ hnone

/-- Two checks in a row try the rules of both in a row. -/
theorem bind {f : α → Except Rejection β} (hx : Reports x rules)
    (hf : ∀ a, x = .ok a → Reports (f a) more) : Reports (x >>= f) (rules ++ more) := by
  intro cause
  rw [bind_eq_error_iff, firstBroken_append_iff, hx cause]
  constructor
  · rintro (h | ⟨a, ha, h⟩)
    · exact .inl h
    · exact .inr ⟨hx.not_firstBroken ha, (hf a ha cause).1 h⟩
  · rintro (h | ⟨hnone, h⟩)
    · exact .inl h
    · obtain ⟨a, ha⟩ := hx.exists_ok hnone
      exact .inr ⟨a, ha, (hf a ha cause).2 h⟩

theorem bind_cons {r : Rule} {f : α → Except Rejection β} (hx : Reports x [r])
    (hf : ∀ a, x = .ok a → Reports (f a) more) : Reports (x >>= f) (r :: more) :=
  hx.bind hf

/-- What is made of a passed check breaks no rule. -/
theorem bind_ok {f : α → β} (hx : Reports x rules) :
    Reports (x >>= fun a => .ok (f a)) rules := by
  rw [← List.append_nil rules]
  exact hx.bind fun a _ => .ok (f a)

theorem map {f : α → β} (hx : Reports x rules) : Reports (f <$> x) rules := by
  rw [map_eq_pure_bind]
  exact hx.bind_ok

/-- A single rule, tested by what it asks for. -/
theorem test {asked : Prop} [Decidable asked] {c : Rejection} {r : Rule}
    (hr : ∀ cause, r cause ↔ ¬ asked ∧ cause = c) :
    Reports (if asked then .ok () else .error c) [r] := by
  apply rule
  intro cause
  rw [hr cause]
  by_cases h : asked
  · simp [h]
  · simp [h, eq_comm]

/-- A rule that is tested by its breach, before other checks. -/
theorem guard {breach : Prop} [Decidable breach] {c : Rejection} {r : Rule}
    (hr : ∀ cause, r cause ↔ breach ∧ cause = c) (hx : ¬ breach → Reports x rules) :
    Reports (if breach then .error c else x) (r :: rules) := by
  by_cases h : breach
  · rw [if_pos h]
    intro cause
    constructor
    · intro he
      cases he
      exact .here ((hr c).2 ⟨h, rfl⟩)
    · intro hc
      cases hc with
      | here hc => rw [((hr cause).1 hc).2]
      | later hnot _ => exact absurd ⟨c, (hr c).2 ⟨h, rfl⟩⟩ hnot
  · rw [if_neg h]
    have hnot : ¬ r.Broken := by
      rintro ⟨cause, hc⟩
      exact h ((hr cause).1 hc).1
    intro cause
    rw [hx h cause]
    constructor
    · intro hc
      exact .later hnot hc
    · intro hc
      cases hc with
      | here hc => exact absurd ⟨cause, hc⟩ hnot
      | later _ hc => exact hc

end Reports

variable {schema : Schema} {table : String}

/-! ## The checks of one call -/

theorem column_eq_error_iff {definition : TableDef} (h : schema.get? table = some definition)
    {column : String} {cause : Rejection} :
    schema.column table column = .error cause ↔ declared schema table column cause := by
  rw [declared, ← lookup_eq_column h, lookup]
  cases definition.get? column with
  | none => simp [eq_comm]
  | some d => simp

theorem lookup_reports {definition : TableDef} (h : schema.get? table = some definition)
    (column : String) : Reports (lookup definition table column) [declared schema table column] := by
  apply Reports.rule
  intro cause
  rw [lookup_eq_column h]
  exact column_eq_error_iff h

theorem checkValue_reports {column : String} {d : ColumnDef}
    (h : schema.column table column = .ok d) (v : Value) :
    Reports (checkValue table column d v) [finite table column v, typed schema table column v] := by
  unfold checkValue
  apply Reports.guard
  · intro cause
    simp [finite]
  · intro _
    apply Reports.test
    intro cause
    simp [typed, h, Value.fits_iff]

theorem checkNullable_reports {s : Scope} (h : s.schema.get? s.table = some s.definition)
    (column : String) : Reports (s.checkNullable column)
      [declared s.schema s.table column, nullable s.schema s.table column] := by
  apply (lookup_reports h column).bind_cons
  intro d hd
  rw [lookup_eq_column h] at hd
  apply Reports.test
  intro cause
  simp [nullable, hd]

theorem checkComparable_reports {left right : Reference} {l r : ColumnDef}
    (hl : schema.column left.table left.column = .ok l)
    (hr : schema.column right.table right.column = .ok r) :
    Reports (checkComparable left l right r) [comparable schema left right] := by
  apply Reports.test
  intro cause
  simp [comparable, hl, hr, ColumnDef.Comparable]

theorem parse_reports (raw : String) : Reports (Reference.parse raw) [qualified raw] := by
  apply Reports.rule
  intro cause
  rw [qualified, Reference.parse]
  simp only [← Reference.ofText?_eq_some_iff]
  cases Reference.ofText? raw with
  | none => simp [eq_comm]
  | some r => simp

theorem checkTable_reports (r : Reference) (table : String) :
    Reports (checkTable r table) [inTable table r] :=
  Reports.test fun _ => Iff.rfl

/-- A check of a reference that has been read reports a rule about its text. -/
theorem Reports.ofReference {α : Type} {x : Except Rejection α} {raw : String} {r : Reference}
    {rule : Reference → Rule} (h : Reference.parse raw = .ok r) (hx : Reports x [rule r]) :
    Reports x [Rule.ofReference raw rule] := by
  have hrule : Rule.ofReference raw rule = rule r := by
    funext cause
    apply propext
    constructor
    · rintro ⟨r', hr', hc⟩
      rw [Reference.parse_eq_ok_iff.2 hr'] at h
      cases h
      exact hc
    · intro hc
      exact ⟨r, Reference.parse_eq_ok_iff.1 h, hc⟩
  rw [hrule]
  exact hx

theorem known_reports (schema : Schema) (table : String) :
    Reports (schema.find table) [known schema table] :=
  Reports.rule fun _ => Schema.find_eq_error_iff

/-! ## Whole calls -/

namespace Scope

variable {s : Scope} (hs : s.schema.get? s.table = some s.definition)
include hs

theorem checkPredicate_reports (p : Predicate) :
    Reports (s.checkPredicate p) (predicateRules s.schema s.table p) := by
  cases p with
  | compare column operator value =>
    apply (lookup_reports hs column).bind_cons
    intro d hd
    rw [lookup_eq_column hs] at hd
    exact checkValue_reports hd value
  | isNull column => exact checkNullable_reports hs column
  | isNotNull column => exact checkNullable_reports hs column
  | compareColumns left operator right =>
    apply (lookup_reports hs left).bind_cons
    intro l hl
    apply (lookup_reports hs right).bind_cons
    intro r hr
    rw [lookup_eq_column hs] at hl hr
    apply Reports.guard
    · intro cause
      exact Iff.rfl
    · intro _
      exact checkComparable_reports hl hr

theorem joinPredicate_reports {joined : String} {definition : TableDef}
    (hj : s.schema.get? joined = some definition) (c : JoinCall) :
    Reports (s.joinPredicate joined definition c) (joinCallRules s.schema s.table joined c) := by
  cases c with
  | compare column operator value =>
    apply (lookup_reports hj column).bind_cons
    intro d hd
    rw [lookup_eq_column hj] at hd
    exact (checkValue_reports hd value).bind_ok
  | compareColumns left operator right =>
    apply (parse_reports left).bind_cons
    intro l hl
    apply (parse_reports right).bind_cons
    intro r hr
    apply (Reports.ofReference hl (checkTable_reports l joined)).bind_cons
    intro _ hlt
    apply (Reports.ofReference hr (checkTable_reports r s.table)).bind_cons
    intro _ hrt
    obtain rfl : l.table = joined := checkTable_eq_ok_iff.1 hlt
    have htable : r.table = s.table := checkTable_eq_ok_iff.1 hrt
    -- The right column is looked up in the builder's table, which the check has shown to be `r`'s.
    have hright : Reports (s.column r.column) [declared s.schema r.table r.column] := by
      rw [htable]
      exact lookup_reports hs r.column
    apply (Reports.ofReference hl (lookup_reports hj l.column)).bind_cons
    intro ld hld
    apply (Reports.ofReference hr hright).bind_cons
    intro rd hrd
    rw [lookup_eq_column hj] at hld
    rw [Scope.column, lookup_eq_column hs, ← htable] at hrd
    exact (Reports.ofReference hl (Reports.ofReference hr (checkComparable_reports hld hrd))).bind_ok

theorem checkColumns_reports (names : List String) :
    Reports (s.checkColumns names) (names.map (declared s.schema s.table)) := by
  induction names with
  | nil => exact Reports.ok ()
  | cons name rest ih =>
    apply (lookup_reports hs name).bind_cons
    intro _ _
    exact ih

theorem selection_reports (names : List String) :
    Reports (s.selection names)
      (someColumn names ::
        if names = ["*"] then [] else names.map (declared s.schema s.table)) := by
  apply Reports.guard
  · intro cause
    simp [someColumn]
  · intro _
    by_cases hstar : names = ["*"]
    · rw [if_pos hstar, if_pos hstar]
      exact Reports.ok _
    · rw [if_neg hstar, if_neg hstar]
      exact (checkColumns_reports hs names).bind_ok

theorem joinConditions_reports {joined : String} {definition : TableDef}
    (hj : s.schema.get? joined = some definition) (calls : List (Linked JoinCall)) :
    Reports (s.joinConditions joined definition calls)
      (calls.flatMap fun c => joinCallRules s.schema s.table joined c.condition) := by
  unfold joinConditions
  induction calls with
  | nil => exact Reports.ok []
  | cons c rest ih =>
    rw [List.mapM_cons, List.flatMap_cons]
    apply (joinPredicate_reports hs hj c.condition).bind_ok.bind
    intro _ _
    exact ih.bind_ok

theorem joinOf_reports (kind : JoinKind) (joined : String) (calls : List (Linked JoinCall)) :
    Reports (s.joinOf kind joined calls) ((Step.join kind joined calls).rules s.schema s.table) := by
  apply Reports.guard
  · intro cause
    exact Iff.rfl
  · intro _
    apply (known_reports s.schema joined).bind_cons
    intro definition hd
    exact (joinConditions_reports hs (Schema.find_eq_ok_iff.1 hd) calls).bind_ok

theorem accept_reports (step : Step) :
    Reports (s.accept step) (step.rules s.schema s.table) := by
  cases step with
  | select names => exact (selection_reports hs names).map
  | filter clause => exact (checkPredicate_reports hs clause.condition).bind_ok
  | join kind joined calls => exact (joinOf_reports hs kind joined calls).map

end Scope

theorem Reachable.apply_reports {b : Builder} (h : Reachable schema table b) (step : Step) :
    Reports (b.apply step) (step.rules schema table) := by
  obtain ⟨definition, hd, hscope, -⟩ := h.invariant
  have haccept : Reports (b.scope.accept step) (step.rules schema table) := by
    rw [hscope]
    exact Scope.accept_reports hd step
  exact haccept.bind_ok

/-- Rejections are complete and truthful. A statement is not started on a table exactly when the
schema has no such table, which is the cause that the look-up gives. A call on a reachable builder
fails exactly when it breaks one of its rules, and the cause reports the first one broken. -/
theorem rejected_iff_firstBroken (schema : Schema) (table : String) :
    (∀ cause, schema.query table = .error cause ↔ schema.find table = .error cause) ∧
    (∀ cause, schema.query table = .error cause ↔
      schema.get? table = none ∧ cause = .tableNotFound table) ∧
    ∀ b, Reachable schema table b → ∀ step,
      ((∃ cause, b.apply step = .error cause) ↔
        ∃ rule ∈ step.rules schema table, rule.Broken) ∧
      ∀ cause, b.apply step = .error cause ↔ FirstBroken (step.rules schema table) cause := by
  have hquery : Reports (schema.query table) [known schema table] :=
    (known_reports schema table).bind_ok
  have hfind : ∀ cause, schema.query table = .error cause ↔ schema.find table = .error cause := by
    intro cause
    rw [hquery cause, known_reports schema table cause]
  refine ⟨hfind, fun cause => (hfind cause).trans Schema.find_eq_error_iff, ?_⟩
  intro b hb step
  have hstep := hb.apply_reports step
  refine ⟨?_, hstep⟩
  rw [← exists_firstBroken_iff]
  simp only [hstep _]

namespace Library

def books : TableDef := (TableDef.empty.column "id" .integer).nullableColumn "subtitle" .text

def authors : TableDef := TableDef.empty.column "name" .text

def catalogue : Schema := (Schema.empty.table "books" books).table "authors" authors

def onBooks : Builder := ⟨⟨catalogue, "books", books⟩, { table := "books" }⟩

def byAuthor : Step :=
  .join .inner "authors"
    [⟨.and, .compare "name" .equal (.text "Ann")⟩,
      ⟨.and, .compareColumns "authors.name" .equal "books.subtitle"⟩,
      ⟨.or, .compare "born" .less (.int32 1900)⟩]

def nullableRight : Rejection :=
  .incompatibleColumns "authors.name" "text" "books.subtitle" "nullable text"

/-- The second condition is the first to break a rule, and of its seven rules the last. -/
theorem nullable_right_before_unknown_column :
    Reachable catalogue "books" onBooks ∧ onBooks.apply byAuthor = .error nullableRight ∧
      FirstBroken (byAuthor.rules catalogue "books") nullableRight := by
  have hstart : Reachable catalogue "books" onBooks := .start rfl
  have hrefused : onBooks.apply byAuthor = .error nullableRight := rfl
  obtain ⟨-, -, h⟩ := rejected_iff_firstBroken catalogue "books"
  exact ⟨hstart, hrefused, ((h onBooks hstart byAuthor).2 nullableRight).1 hrefused⟩

end Library

end Checked
end CheckedSelect
