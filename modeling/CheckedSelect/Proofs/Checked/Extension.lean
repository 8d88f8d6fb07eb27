import CheckedSelect.Proofs.Checked.Accumulation
import CheckedSelect.Proofs.NameMap

/-!
# CheckedSelect.Proofs.Checked.Extension

One sequence of calls on two schemas.

* `Schema.Extends`: a schema with every table and every column of another, defined as there.
  `accept_of_extends` says that a call keeps its acceptance, and its addition, in such a schema.
* `Scope.Alike`: two scopes that no call on some tables tells apart, by `Scope.Alike.accept_eq`.
* `Schema.statement`, `Schema.session`: calls in a row that all have to be accepted, and calls in a
  row of which some may be refused, with everything that is seen of them.
* `statement_and_session_stable`: a statement stays what it is in an extended schema, and a session
  is the same in every schema with the same tables under the names that it uses.
-/

namespace CheckedSelect

/-! ## Extended schemas -/

/-- Every column of the small table is a column of the large one, defined as there. -/
def TableDef.Extends (large small : TableDef) : Prop :=
  ∀ column d, small.get? column = some d → large.get? column = some d

/-- Every table of the small schema is a table of the large one, with all of its columns. -/
def Schema.Extends (large small : Schema) : Prop :=
  ∀ table definition, small.get? table = some definition →
    ∃ wider, large.get? table = some wider ∧ TableDef.Extends wider definition

instance (large small : TableDef) : Decidable (TableDef.Extends large small) :=
  decidable_of_iff (∀ e ∈ small.toList, large.get? e.1 = some e.2) <| by
    simp only [TableDef.Extends, NameMap.get?_eq_some_iff, Prod.forall]

instance (large small : Schema) : Decidable (Schema.Extends large small) :=
  decidable_of_iff
    (∀ e ∈ small.toList, ∃ wider ∈ large.get? e.1, TableDef.Extends wider e.2) <| by
    simp only [Schema.Extends, NameMap.get?_eq_some_iff, Option.mem_def, Prod.forall]

section Extended

variable {large small : TableDef} (h : TableDef.Extends large small)
include h

theorem Selection.WellFormed.extend {chosen : Selection} (hc : chosen.WellFormed small) :
    chosen.WellFormed large := by
  cases chosen with
  | all => trivial
  | columns names =>
    obtain ⟨hempty, hstar, hcolumns⟩ := hc
    refine ⟨hempty, hstar, ?_⟩
    intro name hname
    obtain ⟨d, hd⟩ := hcolumns name hname
    exact ⟨d, h name d hd⟩

theorem Predicate.WellFormed.extend {p : Predicate} (hp : p.WellFormed small) :
    p.WellFormed large := by
  cases p with
  | compare column operator value =>
    obtain ⟨d, hd, hvalue⟩ := hp
    exact ⟨d, h column d hd, hvalue⟩
  | isNull column =>
    obtain ⟨d, hd, hnull⟩ := hp
    exact ⟨d, h column d hd, hnull⟩
  | isNotNull column =>
    obtain ⟨d, hd, hnull⟩ := hp
    exact ⟨d, h column d hd, hnull⟩
  | compareColumns left operator right =>
    obtain ⟨hne, l, r, hl, hr, hcomparable⟩ := hp
    exact ⟨hne, l, r, h left l hl, h right r hr, hcomparable⟩

end Extended

namespace Checked

/-- The same table, bound in an extended schema. -/
structure Scope.Extends (large small : Scope) : Prop where
  table : large.table = small.table
  definition : TableDef.Extends large.definition small.definition
  schema : Schema.Extends large.schema small.schema

end Checked

section ExtendedScope

variable {large small : Checked.Scope} (h : large.Extends small)
include h

theorem JoinPredicate.WellFormed.extend {table : String} {wider definition : TableDef}
    (hw : TableDef.Extends wider definition) {p : JoinPredicate}
    (hp : p.WellFormed small table definition) : p.WellFormed large table wider := by
  cases p with
  | compare column operator value =>
    obtain ⟨htable, d, hd, hvalue⟩ := hp
    exact ⟨htable, d, hw column.column d hd, hvalue⟩
  | compareColumns left operator right =>
    obtain ⟨hleft, ⟨hrt, hr⟩, l, r, hl, hrd, hcomparable⟩ := hp
    exact ⟨hleft, ⟨hrt.trans h.table.symm, hr⟩, l, r, hw left.column l hl,
      h.definition right.column r hrd, hcomparable⟩

theorem Join.WellFormed.extend {j : Join} (hj : j.WellFormed small) : j.WellFormed large := by
  obtain ⟨hne, definition, hd, hconditions⟩ := hj
  obtain ⟨wider, hwider, hw⟩ := h.schema j.table definition hd
  refine ⟨?_, wider, hwider, ?_⟩
  · rw [h.table]
    exact hne
  · intro c hc
    exact (hconditions c hc).extend h hw

theorem Addition.WellFormed.extend {a : Addition} (ha : a.WellFormed small) :
    a.WellFormed large := by
  cases a with
  | selection chosen => exact Selection.WellFormed.extend h.definition ha
  | filter c => exact Predicate.WellFormed.extend h.definition ha
  | join j => exact Join.WellFormed.extend h ha

end ExtendedScope

namespace Checked

theorem Scope.accept_of_extends {large small : Scope} (h : large.Extends small) {step : Step}
    {a : Addition} (ha : small.accept step = .ok a) : large.accept step = .ok a := by
  obtain ⟨hstep, hwf⟩ := accept_eq_ok_iff.1 ha
  exact accept_eq_ok_iff.2 ⟨hstep, hwf.extend h⟩

/-! ## Tables that a call does not name -/

/-- The tables that a call names besides the builder's own. -/
def Step.joined : Step → List String
  | .select _ => []
  | .filter _ => []
  | .join _ table _ => [table]

/-- The same table and definition, in schemas with the same definitions under these names. -/
structure Scope.Alike (names : List String) (s s' : Scope) : Prop where
  table : s.table = s'.table
  definition : s.definition = s'.definition
  schema : ∀ name ∈ names, s.schema.get? name = s'.schema.get? name

namespace Scope.Alike

variable {names : List String} {s s' : Scope}

theorem mono {names' : List String} (h : Alike names s s') (hsub : ∀ name ∈ names', name ∈ names) :
    Alike names' s s' :=
  { h with schema := fun name hname => h.schema name (hsub name hname) }

theorem column (h : Alike names s s') : s.column = s'.column := by
  funext name
  rw [Scope.column, Scope.column, h.table, h.definition]

theorem checkNullable (h : Alike names s s') : s.checkNullable = s'.checkNullable := by
  funext column
  rw [Scope.checkNullable, Scope.checkNullable, h.column, h.table]

theorem checkPredicate (h : Alike names s s') (p : Predicate) :
    s.checkPredicate p = s'.checkPredicate p := by
  cases p with
  | compare column operator value =>
    rw [Scope.checkPredicate, Scope.checkPredicate, h.column, h.table]
  | isNull column => exact congrFun h.checkNullable column
  | isNotNull column => exact congrFun h.checkNullable column
  | compareColumns left operator right =>
    rw [Scope.checkPredicate, Scope.checkPredicate, h.column, h.table]

theorem joinPredicate (h : Alike names s s') (table : String) (definition : TableDef)
    (c : JoinCall) : s.joinPredicate table definition c = s'.joinPredicate table definition c := by
  cases c with
  | compare column operator value => rfl
  | compareColumns left operator right =>
    rw [Scope.joinPredicate, Scope.joinPredicate, h.column, h.table]

theorem checkColumns (h : Alike names s s') (columns : List String) :
    s.checkColumns columns = s'.checkColumns columns := by
  induction columns with
  | nil => rfl
  | cons name rest ih => rw [Scope.checkColumns, Scope.checkColumns, h.column, ih]

theorem selection (h : Alike names s s') (columns : List String) :
    s.selection columns = s'.selection columns := by
  rw [Scope.selection, Scope.selection, h.checkColumns]

theorem joinOf (h : Alike names s s') (kind : JoinKind) {table : String} (ht : table ∈ names)
    (calls : List (Linked JoinCall)) : s.joinOf kind table calls = s'.joinOf kind table calls := by
  have hfind : s.schema.find table = s'.schema.find table := by
    rw [Schema.find, Schema.find, h.schema table ht]
  have hconditions : s.joinConditions table = s'.joinConditions table := by
    funext definition calls
    rw [joinConditions, joinConditions]
    simp only [h.joinPredicate]
  rw [Scope.joinOf, Scope.joinOf, h.table, hfind, hconditions]

theorem accept_eq {step : Step} (h : Alike step.joined s s') : s.accept step = s'.accept step := by
  cases step with
  | select columns => rw [accept, accept, h.selection]
  | filter clause => rw [accept, accept, h.checkPredicate]
  | join kind table calls => rw [accept, accept, h.joinOf kind List.mem_cons_self]

end Scope.Alike

/-! ## Calls in a row -/

namespace Builder

/-- The builder after calls that are all accepted, or the cause of the first that is not. -/
def applyAll (b : Builder) (steps : List Step) : Except Rejection Builder :=
  steps.foldlM apply b

/-- What each call gives, refused ones without effect: the query after it, or its cause. -/
def replies (b : Builder) : List Step → List (Except Rejection Query)
  | [] => []
  | step :: steps => (query <$> b.apply step) :: (b.attempt step).replies steps

end Builder

end Checked

namespace Schema

/-- The query that calls in a row build, where none may be refused. -/
def statement (s : Schema) (table : String) (steps : List Checked.Step) :
    Except Rejection Query := do
  let b ← s.query table
  Checked.Builder.query <$> b.applyAll steps

/-- What calls in a row give, and the query after them, where refused ones are without effect. -/
def session (s : Schema) (table : String) (steps : List Checked.Step) :
    Except Rejection (List (Except Rejection Query) × Query) := do
  let b ← s.query table
  return (b.replies steps, (b.run steps).query)

end Schema

namespace Checked
namespace Builder

variable {b w : Builder}

/-- Two builders of one query, the second in an extended schema, take accepted calls together. -/
theorem applyAll_of_extends {steps : List Step} {last : Builder} (hscope : w.scope.Extends b.scope)
    (hquery : w.query = b.query) (hb : b.applyAll steps = .ok last) :
    ∃ wider, w.applyAll steps = .ok wider ∧ wider.query = last.query := by
  -- An accepted call makes the same addition to both, so the two go on as builders of one query.
  induction steps generalizing b w with
  | nil =>
    cases hb
    exact ⟨w, rfl, hquery⟩
  | cons step rest ih =>
    rw [applyAll, List.foldlM_cons, bind_eq_ok_iff] at hb
    obtain ⟨next, hstep, hrest⟩ := hb
    rw [apply, bind_eq_ok_iff] at hstep
    obtain ⟨a, ha, hnext⟩ := hstep
    cases hnext
    have hwider : w.apply step = .ok ⟨w.scope, w.query.add a⟩ := by
      rw [apply, Scope.accept_of_extends hscope ha]
      rfl
    have hadd : w.query.add a = b.query.add a := by rw [hquery]
    obtain ⟨wider, hall, hlast⟩ := ih (b := ⟨b.scope, b.query.add a⟩)
      (w := ⟨w.scope, w.query.add a⟩) hscope hadd hrest
    refine ⟨wider, ?_, hlast⟩
    rw [applyAll, List.foldlM_cons, hwider, ok_bind]
    exact hall

/-- Two builders of one query whose scopes a call does not tell apart: it gives the same on both. -/
theorem reply_eq {step : Step} (hscope : Scope.Alike step.joined b.scope w.scope)
    (hquery : b.query = w.query) :
    query <$> b.apply step = query <$> w.apply step ∧
      (b.attempt step).query = (w.attempt step).query := by
  rw [attempt, attempt, apply, apply, hscope.accept_eq]
  cases w.scope.accept step with
  | ok a =>
    have hadd : b.query.add a = w.query.add a := by rw [hquery]
    exact ⟨congrArg Except.ok hadd, hadd⟩
  | error cause => exact ⟨rfl, hquery⟩

theorem replies_eq {steps : List Step}
    (hscope : Scope.Alike (steps.flatMap Step.joined) b.scope w.scope) (hquery : b.query = w.query) :
    b.replies steps = w.replies steps ∧ (b.run steps).query = (w.run steps).query := by
  induction steps generalizing b w with
  | nil => exact ⟨rfl, hquery⟩
  | cons step rest ih =>
    rw [List.flatMap_cons] at hscope
    have hfirst : Scope.Alike step.joined b.scope w.scope :=
      hscope.mono fun _ => List.mem_append_left _
    -- No call changes a scope, so what is left of the names serves the calls that are left.
    have hrest : Scope.Alike (rest.flatMap Step.joined) (b.attempt step).scope
        (w.attempt step).scope := by
      rw [scope_attempt, scope_attempt]
      exact hscope.mono fun _ => List.mem_append_right _
    obtain ⟨hreply, hnext⟩ := reply_eq hfirst hquery
    obtain ⟨hreplies, hrun⟩ := ih hrest hnext
    refine ⟨?_, hrun⟩
    rw [replies, replies, hreply, hreplies]

end Builder
end Checked

/-! ## Whole statements -/

namespace Schema

variable {s s' : Schema} {table : String} {steps : List Checked.Step}

theorem Extends.statement_eq (h : s'.Extends s) {q : Query} (hq : s.statement table steps = .ok q) :
    s'.statement table steps = .ok q := by
  rw [statement, bind_eq_ok_iff] at hq
  obtain ⟨b, hb, hq⟩ := hq
  obtain ⟨last, hlast, rfl⟩ := map_eq_ok_iff.1 hq
  obtain ⟨definition, hd, rfl⟩ := query_eq_ok_iff.1 hb
  obtain ⟨wider, hwider, hw⟩ := h table definition hd
  have hstart : s'.query table = .ok ⟨⟨s', table, wider⟩, { table }⟩ :=
    query_eq_ok_iff.2 ⟨wider, hwider, rfl⟩
  have hscope : Checked.Scope.Extends ⟨s', table, wider⟩ ⟨s, table, definition⟩ := ⟨rfl, hw, h⟩
  obtain ⟨lastWider, hall, hsame⟩ := Checked.Builder.applyAll_of_extends
    (b := ⟨_, { table }⟩) (w := ⟨_, { table }⟩) hscope rfl hlast
  rw [statement, hstart, ok_bind, hall]
  exact congrArg Except.ok hsame

theorem session_eq (h : ∀ name ∈ table :: steps.flatMap Checked.Step.joined,
    s.get? name = s'.get? name) : s.session table steps = s'.session table steps := by
  obtain ⟨htable, hjoined⟩ := List.forall_mem_cons.1 h
  rw [session, session, query, query, find, find, htable]
  cases s'.get? table with
  | none => rfl
  | some definition =>
    have hscope : Checked.Scope.Alike (steps.flatMap Checked.Step.joined)
        ⟨s, table, definition⟩ ⟨s', table, definition⟩ := ⟨rfl, rfl, hjoined⟩
    obtain ⟨hreplies, hrun⟩ := Checked.Builder.replies_eq (b := ⟨_, { table }⟩)
      (w := ⟨_, { table }⟩) hscope rfl
    exact congrArg Except.ok (Prod.ext hreplies hrun)

/-- A statement whose calls are all accepted stays the same in every schema with more tables and
more columns. And only the tables that are named count: where two schemas agree on the table of the
builder and on the ones that are joined, each call gives the same in both, refused or not, and so
does the whole. -/
theorem statement_and_session_stable (s s' : Schema) (table : String) (steps : List Checked.Step) :
    (s'.Extends s → ∀ q, s.statement table steps = .ok q → s'.statement table steps = .ok q) ∧
    ((∀ name ∈ table :: steps.flatMap Checked.Step.joined, s.get? name = s'.get? name) →
      s.session table steps = s'.session table steps) :=
  ⟨fun h _ hq => h.statement_eq hq, session_eq⟩

end Schema

namespace Checked.Depot

def parcels : TableDef := (TableDef.empty.column "id" .integer).nullableColumn "weight" .float

def routes : TableDef := TableDef.empty.column "parcel" .integer

def first : Schema := (Schema.empty.table "parcels" parcels).table "routes" routes

/-- More columns in both tables, and a third table. -/
def later : Schema :=
  ((first.table "parcels" (parcels.column "note" .text)).table "routes"
    (routes.nullableColumn "km" .float)).table "vans" TableDef.empty

def routed : Step :=
  .join .left "routes" [⟨.and, .compareColumns "routes.parcel" .equal "parcels.id"⟩]

/-- There is no such column yet. -/
def noted : Step := .filter ⟨.and, .compare "note" .equal (.text "fragile")⟩

def unweighed : Step := .filter ⟨.or, .isNull "weight"⟩

def routedParcels : Query where
  table := "parcels"
  filters := [⟨.or, .isNull "weight"⟩]
  joins := [⟨.left, "routes",
    [⟨.and, .compareColumns ⟨"routes", "parcel"⟩ .equal ⟨"parcels", "id"⟩⟩]⟩]

/-- The later schema builds the same statement. A further table that is not named changes nothing,
not even the refusal of the note, which the later schema would accept. -/
theorem parcels_before_and_after :
    later.Extends first ∧
    first.statement "parcels" [routed, unweighed] = .ok routedParcels ∧
    later.statement "parcels" [routed, unweighed] = .ok routedParcels ∧
    first.session "parcels" [routed, noted, unweighed] =
      (first.table "vans" parcels).session "parcels" [routed, noted, unweighed] := by
  have hextends : later.Extends first := by decide
  have hfirst : first.statement "parcels" [routed, unweighed] = .ok routedParcels := rfl
  have hagree : ∀ name ∈ "parcels" :: [routed, noted, unweighed].flatMap Step.joined,
      first.get? name = (first.table "vans" parcels).get? name := by decide
  obtain ⟨hstatement, -⟩ := Schema.statement_and_session_stable first later "parcels"
    [routed, unweighed]
  obtain ⟨-, hsession⟩ := Schema.statement_and_session_stable first (first.table "vans" parcels)
    "parcels" [routed, noted, unweighed]
  exact ⟨hextends, hfirst, hstatement hextends _ hfirst, hsession hagree⟩

end Checked.Depot
end CheckedSelect
