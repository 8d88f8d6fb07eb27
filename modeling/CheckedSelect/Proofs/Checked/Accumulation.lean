import CheckedSelect.Proofs.Checked.Acceptance
import Mathlib.Data.List.Forall2

/-!
# CheckedSelect.Proofs.Checked.Accumulation

What a run of calls leaves in the query, where refused calls leave the builder as it was.

* `Builder.verdict`: whether a call is accepted, and the cause if it is not. A run does not change
  it, since no check looks at the query.
* `Builder.accepted`: the accepted calls of a run.
* `Accumulates`: a query that holds, of a list of calls, the last selection, every filter and every
  join. Such a query is determined by the three kinds of calls, each in its own order.
* `run_accumulates`: the query after a run holds the accepted calls of the run.
-/

namespace CheckedSelect
namespace Checked

/-! ## The three kinds of calls -/

namespace Step

def select? : Step → Option (List String)
  | .select names => some names
  | .filter _ => none
  | .join _ _ _ => none

def filter? : Step → Option (Linked Predicate)
  | .select _ => none
  | .filter clause => some clause
  | .join _ _ _ => none

/-- The kind and the table of a join, and the calls for its conditions. -/
def join? : Step → Option (JoinKind × String × List (Linked JoinCall))
  | .select _ => none
  | .filter _ => none
  | .join kind table calls => some (kind, table, calls)

theorem eq_select (step : Step) (names : List String) (h : step.select? = some names) :
    step = .select names := by
  cases step with
  | select _ => cases h; rfl
  | filter _ => cases h
  | join _ _ _ => cases h

theorem eq_filter (step : Step) (clause : Linked Predicate) (h : step.filter? = some clause) :
    step = .filter clause := by
  cases step with
  | select _ => cases h
  | filter _ => cases h; rfl
  | join _ _ _ => cases h

theorem eq_join (step : Step) (call : JoinKind × String × List (Linked JoinCall))
    (h : step.join? = some call) : step = .join call.1 call.2.1 call.2.2 := by
  cases step with
  | select _ => cases h
  | filter _ => cases h
  | join _ _ _ => cases h; rfl

end Step

/-- The condition that a call asks for in a join of `table` with `joined`. -/
def JoinCall.Asks (table joined : String) : JoinCall → JoinPredicate → Prop
  | .compare column operator value, p => p = .compare ⟨joined, column⟩ operator value
  | .compareColumns left operator right, p =>
    ∃ l r : Reference, (left = l.text ∧ l.table = joined) ∧ (right = r.text ∧ r.table = table) ∧
      p = .compareColumns l operator r

/-- The join that a call asks for, with one condition for each call for one. -/
def AsksJoin (table : String) (call : JoinKind × String × List (Linked JoinCall)) (j : Join) :
    Prop :=
  j.kind = call.1 ∧ j.table = call.2.1 ∧
    List.Forall₂ (fun c p => p.relation = c.relation ∧ c.condition.Asks table j.table p.condition)
      call.2.2 j.conditions

/-- A lone asterisk stands for every column. -/
def selectionOf (names : List String) : Selection :=
  if names = ["*"] then .all else .columns names

/-- The query on a table that holds these calls and nothing else. -/
structure Accumulates (name : String) (calls : List Step) (q : Query) : Prop where
  table : q.table = name
  selection : q.selection = ((calls.filterMap Step.select?).getLast?.map selectionOf).getD .all
  filters : q.filters = calls.filterMap Step.filter?
  joins : List.Forall₂ (AsksJoin name) (calls.filterMap Step.join?) q.joins

namespace Builder

/-- Whether a call is accepted, and the cause if it is not. -/
def verdict (b : Builder) (step : Step) : Except Rejection Unit :=
  (fun _ => ()) <$> b.apply step

/-- The accepted calls of a run, each judged by the builder that the calls before it lead to. -/
def accepted (b : Builder) : List Step → List Step
  | [] => []
  | step :: steps =>
    match b.apply step with
    | .ok next => step :: next.accepted steps
    | .error _ => b.accepted steps

/-! ## Verdicts -/

theorem scope_apply {b next : Builder} {step : Step} (h : b.apply step = .ok next) :
    next.scope = b.scope := by
  obtain ⟨a, -, rfl⟩ := apply_eq_ok_iff.1 h
  rfl

theorem attempt_of_ok {b next : Builder} {step : Step} (h : b.apply step = .ok next) :
    b.attempt step = next := by
  rw [attempt, h]

theorem attempt_of_error {b : Builder} {step : Step} {cause : Rejection}
    (h : b.apply step = .error cause) : b.attempt step = b := by
  rw [attempt, h]

theorem scope_attempt (b : Builder) (step : Step) : (b.attempt step).scope = b.scope := by
  cases h : b.apply step with
  | ok next => rw [attempt_of_ok h, scope_apply h]
  | error _ => rw [attempt_of_error h]

theorem scope_run (b : Builder) (steps : List Step) : (b.run steps).scope = b.scope := by
  induction steps generalizing b with
  | nil => rfl
  | cons step rest ih => exact (ih (b.attempt step)).trans (b.scope_attempt step)

theorem verdict_eq_of_scope {b b' : Builder} (h : b.scope = b'.scope) (step : Step) :
    b.verdict step = b'.verdict step := by
  rw [verdict, verdict, apply, apply, h]
  cases b'.scope.accept step with
  | ok _ => rfl
  | error _ => rfl

theorem verdict_run (b : Builder) (before : List Step) (step : Step) :
    (b.run before).verdict step = b.verdict step :=
  verdict_eq_of_scope (b.scope_run before) step

/-- The calls that a run accepts are the ones that its first builder would accept. -/
theorem accepted_eq_filter (b : Builder) (steps : List Step) :
    b.accepted steps = steps.filter fun step => (b.verdict step).isOk := by
  induction steps generalizing b with
  | nil => rfl
  | cons step rest ih =>
    rw [accepted, List.filter_cons, verdict]
    cases h : b.apply step with
    | ok next =>
      have hverdict := verdict_eq_of_scope (scope_apply h)
      show step :: next.accepted rest = step :: _
      rw [ih next]
      simp only [hverdict]
    | error _ => exact ih b

theorem run_refused (b : Builder) (before : List Step) (step : Step) (cause : Rejection)
    (after : List Step) (h : (b.run before).apply step = .error cause) :
    b.run (before ++ step :: after) = b.run (before ++ after) := by
  rw [run, run, List.foldl_append, List.foldl_append, List.foldl_cons]
  show after.foldl attempt ((b.run before).attempt step) = after.foldl attempt (b.run before)
  rw [attempt_of_error h]

end Builder

/-! ## One call -/

theorem selectionOf_names {definition : TableDef} {s : Selection} (h : s.WellFormed definition) :
    selectionOf s.names = s := by
  cases s with
  | all => rfl
  | columns names =>
    obtain ⟨-, hstar, -⟩ := h
    exact if_neg hstar

theorem asks_call {s : Scope} {joined : String} {definition : TableDef} {p : JoinPredicate}
    (h : p.WellFormed s joined definition) : p.call.Asks s.table joined p := by
  cases p with
  | compare column operator value =>
    obtain ⟨rfl, -⟩ := h
    rfl
  | compareColumns left operator right =>
    obtain ⟨⟨hl, -⟩, ⟨hr, -⟩, -⟩ := h
    exact ⟨left, right, ⟨rfl, hl⟩, ⟨rfl, hr⟩, rfl⟩

theorem asksJoin_call {s : Scope} {j : Join} (h : j.WellFormed s) :
    AsksJoin s.table (j.kind, j.table, j.conditions.map (Linked.map JoinPredicate.call)) j := by
  obtain ⟨-, definition, -, hconditions⟩ := h
  refine ⟨rfl, rfl, ?_⟩
  rw [List.forall₂_map_left_iff, List.forall₂_same]
  intro c hc
  exact ⟨rfl, asks_call (hconditions c hc)⟩

theorem Accumulates.add {s : Scope} {calls : List Step} {q : Query} {a : Addition}
    (h : Accumulates s.table calls q) (ha : a.WellFormed s) :
    Accumulates s.table (calls ++ [a.call]) (q.add a) := by
  cases a with
  | selection chosen =>
    refine { h with selection := ?_, filters := ?_, joins := ?_ }
    · simp [Query.add, Addition.call, Step.select?, selectionOf_names ha]
    · simp [Query.add, Addition.call, Step.filter?, h.filters]
    · simpa [Query.add, Addition.call, List.filterMap_cons, Step.join?] using h.joins
  | filter c =>
    refine { h with selection := ?_, filters := ?_, joins := ?_ }
    · simp [Query.add, Addition.call, Step.select?, h.selection]
    · simp [Query.add, Addition.call, Step.filter?, h.filters]
    · simpa [Query.add, Addition.call, List.filterMap_cons, Step.join?] using h.joins
  | join j =>
    refine { h with selection := ?_, filters := ?_, joins := ?_ }
    · simp [Query.add, Addition.call, Step.select?, h.selection]
    · simp [Query.add, Addition.call, Step.filter?, h.filters]
    · rw [List.filterMap_append]
      exact List.rel_append h.joins (.cons (asksJoin_call ha) .nil)

/-! ## Runs -/

theorem Accumulates.start (table : String) : Accumulates table [] { table } where
  table := rfl
  selection := rfl
  filters := rfl
  joins := .nil

/-- A run adds its accepted calls to the calls before it, call by call. -/
theorem Accumulates.run {b : Builder} {calls : List Step}
    (h : Accumulates b.scope.table calls b.query) (steps : List Step) :
    Accumulates b.scope.table (calls ++ b.accepted steps) (b.run steps).query := by
  -- An accepted call moves from the steps to the calls, so the calls so far are any.
  induction steps generalizing b calls with
  | nil =>
    rw [Builder.accepted, List.append_nil]
    exact h
  | cons step rest ih =>
    rw [Builder.accepted]
    show Accumulates _ _ ((b.attempt step).run rest).query
    cases hstep : b.apply step with
    | ok next =>
      obtain ⟨a, ⟨rfl, ha⟩, rfl⟩ := Builder.apply_eq_ok_iff.1 hstep
      rw [Builder.attempt_of_ok hstep]
      have hrest := ih (b := { b with query := b.query.add a }) (h.add ha)
      rw [List.append_assoc] at hrest
      exact hrest
    | error _ =>
      rw [Builder.attempt_of_error hstep]
      exact ih h

/-! ## The three orders -/

theorem Reference.eq_of_text {r r' : Reference} (ht : r.table = r'.table)
    (h : r.text = r'.text) : r = r' := by
  obtain ⟨table, column⟩ := r
  obtain ⟨table', column'⟩ := r'
  cases ht
  have hcolumn : column = column' := (String.append_right_inj (table ++ ".")).1 h
  rw [hcolumn]

theorem asks_rightUnique (table joined : String) :
    Relator.RightUnique (JoinCall.Asks table joined) := by
  intro c p p' h h'
  cases c with
  | compare column operator value => exact h.trans h'.symm
  | compareColumns left operator right =>
    obtain ⟨l, r, ⟨hl, hlt⟩, ⟨hr, hrt⟩, rfl⟩ := h
    obtain ⟨l', r', ⟨hl', hlt'⟩, ⟨hr', hrt'⟩, rfl⟩ := h'
    rw [Reference.eq_of_text (hlt.trans hlt'.symm) (hl.symm.trans hl'),
      Reference.eq_of_text (hrt.trans hrt'.symm) (hr.symm.trans hr')]

theorem asksJoin_rightUnique (table : String) : Relator.RightUnique (AsksJoin table) := by
  intro call j j' h h'
  obtain ⟨kind, joined, conditions⟩ := j
  obtain ⟨kind', joined', conditions'⟩ := j'
  obtain ⟨hkind, hjoined, hconditions⟩ := h
  obtain ⟨hkind', hjoined', hconditions'⟩ := h'
  obtain rfl : kind = kind' := hkind.trans hkind'.symm
  obtain rfl : joined = joined' := hjoined.trans hjoined'.symm
  have hunique : Relator.RightUnique fun (c : Linked JoinCall) (p : Linked JoinPredicate) =>
      p.relation = c.relation ∧ c.condition.Asks table joined p.condition := by
    rintro c ⟨relation, p⟩ ⟨relation', p'⟩ ⟨hr, hp⟩ ⟨hr', hp'⟩
    obtain rfl : relation = relation' := hr.trans hr'.symm
    obtain rfl : p = p' := asks_rightUnique table joined hp hp'
    rfl
  obtain rfl : conditions = conditions' := hunique.forall₂ hconditions hconditions'
  rfl

/-- How calls of different kinds are interleaved does not show in the query. -/
theorem Accumulates.unique {name : String} {calls calls' : List Step} {q q' : Query}
    (h : Accumulates name calls q) (h' : Accumulates name calls' q')
    (hselect : calls.filterMap Step.select? = calls'.filterMap Step.select?)
    (hfilter : calls.filterMap Step.filter? = calls'.filterMap Step.filter?)
    (hjoin : calls.filterMap Step.join? = calls'.filterMap Step.join?) : q = q' := by
  have htable : q.table = q'.table := h.table.trans h'.table.symm
  have hselection : q.selection = q'.selection := by rw [h.selection, h'.selection, hselect]
  have hfilters : q.filters = q'.filters := by rw [h.filters, h'.filters, hfilter]
  have hjoins : q.joins = q'.joins :=
    (asksJoin_rightUnique name).forall₂ h.joins (hjoin ▸ h'.joins)
  cases q
  cases q'
  cases htable
  cases hselection
  cases hfilters
  cases hjoins
  rfl

/-- Accepting calls one by one goes kind by kind. -/
theorem filterMap_accepted {κ : Type} {b : Builder} {kind? : Step → Option κ} {call : κ → Step}
    (hkind : ∀ step k, kind? step = some k → step = call k) (steps : List Step) :
    (b.accepted steps).filterMap kind? =
      (steps.filterMap kind?).filter fun k => (b.verdict (call k)).isOk := by
  rw [Builder.accepted_eq_filter, List.filterMap_filter, List.filter_filterMap]
  -- Both sides are one pass over the steps now, and agree step by step.
  congr 1
  funext step
  cases h : kind? step with
  | none => simp
  | some k =>
    rw [hkind step k h]
    simp [Option.filter]

/-- The run of a statement. No call before it changes the verdict on a call, a refused call leaves no
trace, the query holds the accepted calls and nothing else, and only the order among the selections,
among the filters and among the joins counts. -/
theorem run_accumulates {schema : Schema} {table : String} {b : Builder}
    (h : schema.query table = .ok b) :
    (∀ before step, (b.run before).verdict step = b.verdict step) ∧
    (∀ before step cause after, (b.run before).apply step = .error cause →
      b.run (before ++ step :: after) = b.run (before ++ after)) ∧
    (∀ steps, Accumulates table (b.accepted steps) (b.run steps).query) ∧
    ∀ steps steps', steps.filterMap Step.select? = steps'.filterMap Step.select? →
      steps.filterMap Step.filter? = steps'.filterMap Step.filter? →
      steps.filterMap Step.join? = steps'.filterMap Step.join? →
      (b.run steps).query = (b.run steps').query := by
  have hstart : b.scope.table = table ∧ Accumulates table [] b.query := by
    obtain ⟨definition, -, rfl⟩ := Schema.query_eq_ok_iff.1 h
    exact ⟨rfl, Accumulates.start table⟩
  obtain ⟨rfl, hstart⟩ := hstart
  have hholds : ∀ steps, Accumulates b.scope.table (b.accepted steps) (b.run steps).query :=
    fun steps => hstart.run steps
  refine ⟨b.verdict_run, b.run_refused, hholds, ?_⟩
  intro steps steps' hselect hfilter hjoin
  apply (hholds steps).unique (hholds steps')
  · rw [filterMap_accepted Step.eq_select, filterMap_accepted Step.eq_select, hselect]
  · rw [filterMap_accepted Step.eq_filter, filterMap_accepted Step.eq_filter, hfilter]
  · rw [filterMap_accepted Step.eq_join, filterMap_accepted Step.eq_join, hjoin]

namespace Shelf

def books : TableDef := (TableDef.empty.column "id" .integer).nullableColumn "writer" .text

def writers : TableDef := TableDef.empty.column "name" .text

def inventory : Schema := (Schema.empty.table "books" books).table "writers" writers

def onBooks : Builder := ⟨⟨inventory, "books", books⟩, { table := "books" }⟩

def written : Step := .filter ⟨.or, .isNotNull "writer"⟩

/-- The second condition names no column. -/
def byAge : Step :=
  .join .left "writers"
    [⟨.and, .compare "name" .equal (.text "Ann")⟩, ⟨.and, .compare "age" .less (.int32 30)⟩]

def byName : Step := .join .full "writers" [⟨.or, .compare "name" .equal (.text "Ann")⟩]

/-- The refused join leaves nothing behind, and a filter may stand before or after a join. -/
theorem run_without_refused :
    onBooks.accepted [byAge, written, byName, .select ["id"]] = [written, byName, .select ["id"]] ∧
    onBooks.run [byAge, written] = onBooks.run [written] ∧
    (onBooks.run [byAge, written, byName, .select ["id"]]).query =
      (onBooks.run [byAge, .select ["id"], byName, written]).query ∧
    Accumulates "books" [written, byName, .select ["id"]]
      (onBooks.run [byAge, written, byName, .select ["id"]]).query := by
  have hstart : inventory.query "books" = .ok onBooks := rfl
  obtain ⟨-, hrefused, hholds, horder⟩ := run_accumulates hstart
  have haccepted : onBooks.accepted [byAge, written, byName, .select ["id"]] =
      [written, byName, .select ["id"]] := rfl
  have hbyAge : onBooks.apply byAge = .error (.columnNotFound "writers" "age") := rfl
  refine ⟨haccepted, hrefused [] byAge _ [written] hbyAge, horder _ _ rfl rfl rfl, ?_⟩
  rw [← haccepted]
  exact hholds _

end Shelf

end Checked
end CheckedSelect
