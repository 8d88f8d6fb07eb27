import CheckedSelect.Proofs.Typed.Acceptance

/-!
# CheckedSelect.Proofs.Typed.Simulation

The checked builder does what the typed one does, through a whole run.

* `Schema.holds_of_mem`: a schema made of declared tables has each of them.
* `Agree`: the two builders at the same point of a run. One call keeps it (`Agree.attempt`), and so
  does a run (`Agree.run`).
* `checked_simulates_typed`: which calls are refused, and what both builders hold otherwise.
-/

namespace CheckedSelect

namespace Schema

/-- A schema of declared tables with distinct names has each of them. -/
theorem holds_of_mem {tables : List Typed.Table} (hnodup : (tables.map Typed.Table.name).Nodup)
    {t : Typed.Table} (ht : t ∈ tables) : (tables.foldl withTable empty).Holds t := by
  have hentries : tables.foldl withTable empty =
      NameMap.ofList (tables.map fun t => (t.name, t.definition)) := by
    rw [NameMap.ofList, List.foldl_map]
    rfl
  show (tables.foldl withTable empty).get? t.name = some t.definition
  rw [hentries]
  exact NameMap.get?_ofList_map_of_mem hnodup ht

end Schema

namespace Typed

variable {t : Table} {s : Schema}

namespace Step

/-- No literal of the call is an infinity or a NaN. -/
def Finite (step : Step t) : Prop := ∀ l ∈ step.literals, l.2.isFinite = true

instance (step : Step t) : Decidable step.Finite :=
  inferInstanceAs (Decidable (∀ l ∈ step.literals, l.2.isFinite = true))

theorem nonFinite?_eq_none_iff {step : Step t} : nonFinite? step.literals = none ↔ step.Finite := by
  unfold nonFinite? Finite
  rw [Option.map_eq_none_iff, List.find?_eq_none]
  simp

end Step

/-- The two builders at the same point of a run. -/
structure Agree (s : Schema) (b : Builder t) (d : Checked.Builder) : Prop where
  scope : d.scope = ⟨s, t.name, t.definition⟩
  query : d.query = b.query

namespace Agree

variable {b : Builder t} {d : Checked.Builder} {step : Step t}

theorem start : Agree s (Builder.start t) ⟨⟨s, t.name, t.definition⟩, { table := t.name }⟩ where
  scope := rfl
  query := rfl

theorem apply_asked (h : Agree s b d) (hs : ∀ other ∈ step.joined, s.Holds other) :
    d.apply step.asked =
      (checkFinite step.literals >>= fun _ => .ok ⟨d.scope, (b.apply step).query⟩) := by
  have haccept := accept_asked step hs
  rw [← h.scope] at haccept
  unfold Checked.Builder.apply
  rw [haccept, h.query]
  cases checkFinite step.literals with
  | error e => rfl
  | ok u => rfl

theorem apply_nonFinite (h : Agree s b d) (hs : ∀ other ∈ step.joined, s.Holds other)
    (hf : ¬ step.Finite) :
    ∃ column, nonFinite? step.literals = some column ∧
      d.apply step.asked = .error (.invalidQuery (.nonFinite column)) := by
  cases hn : nonFinite? step.literals with
  | none => exact absurd (Step.nonFinite?_eq_none_iff.1 hn) hf
  | some column =>
    refine ⟨column, rfl, ?_⟩
    rw [h.apply_asked hs, checkFinite, hn]
    rfl

theorem apply_finite (h : Agree s b d) (hs : ∀ other ∈ step.joined, s.Holds other)
    (hf : step.Finite) :
    ∃ next, d.apply step.asked = .ok next ∧ Agree s (b.apply step) next := by
  refine ⟨⟨d.scope, (b.apply step).query⟩, ?_, h.scope, rfl⟩
  rw [h.apply_asked hs, checkFinite, Step.nonFinite?_eq_none_iff.2 hf]
  rfl

/-- Tried on both sides, a call that is refused is left out. -/
theorem attempt (h : Agree s b d) (hs : ∀ other ∈ step.joined, s.Holds other) :
    Agree s (b.run ([step].filter fun step => step.Finite)) (d.attempt step.asked) := by
  by_cases hf : step.Finite
  · obtain ⟨next, hnext, hagree⟩ := h.apply_finite hs hf
    rw [List.filter_cons_of_pos (by simpa using hf), Checked.Builder.attempt, hnext]
    exact hagree
  · obtain ⟨column, -, hrefused⟩ := h.apply_nonFinite hs hf
    rw [List.filter_cons_of_neg (by simpa using hf), Checked.Builder.attempt, hrefused]
    exact h

/-- The simulation through a run: the checked builder is where the typed one is after the calls
with finite literals. -/
theorem run {steps : List (Step t)} (h : Agree s b d)
    (hs : ∀ step ∈ steps, ∀ other ∈ step.joined, s.Holds other) :
    Agree s (b.run (steps.filter fun step => step.Finite)) (d.run (steps.map Step.asked)) := by
  induction steps generalizing b d with
  | nil => exact h
  | cons step rest ih =>
    obtain ⟨hstep, hrest⟩ := List.forall_mem_cons.1 hs
    have hnext := ih (h.attempt hstep) hrest
    have hrun : b.run ((step :: rest).filter fun step => step.Finite) =
        (b.run ([step].filter fun step => step.Finite)).run
          (rest.filter fun step => step.Finite) := by
      unfold Builder.run
      rw [← List.foldl_append, ← List.filter_append]
      rfl
    rw [hrun]
    exact hnext

end Agree

/-- The checked builder simulates the typed one. In a run of typed calls that are asked by name, a
call is refused exactly for its first literal that is not finite. As long as no literal was
refused, both builders hold the same query after every call, and so the same text. -/
theorem checked_simulates_typed {steps : List (Step t)} (ht : s.Holds t)
    (hs : ∀ step ∈ steps, ∀ other ∈ step.joined, s.Holds other) :
    ∃ first, s.query t.name = .ok first ∧ first.query = (Builder.start t).query ∧
      ∀ before step after, steps = before ++ step :: after →
        (¬ step.Finite → ∃ column, nonFinite? step.literals = some column ∧
          (first.run (before.map Step.asked)).apply step.asked =
            .error (.invalidQuery (.nonFinite column))) ∧
        (step.Finite → ∃ next,
          (first.run (before.map Step.asked)).apply step.asked = .ok next ∧
          ((∀ earlier ∈ before, earlier.Finite) →
            next.query = ((Builder.start t).run (before ++ [step])).query ∧
            ∀ options, next.query.render options =
              ((Builder.start t).run (before ++ [step])).query.render options)) := by
  refine ⟨_, Schema.query_eq_ok_iff.2 ⟨t.definition, ht, rfl⟩, rfl, ?_⟩
  intro before step after hsteps
  have hmem : ∀ earlier ∈ before, ∀ other ∈ earlier.joined, s.Holds other := by
    intro earlier he
    exact hs earlier (by rw [hsteps]; exact List.mem_append_left _ he)
  have hstep : ∀ other ∈ step.joined, s.Holds other :=
    hs step (by rw [hsteps]; exact List.mem_append_right _ List.mem_cons_self)
  have hagree := Agree.start.run hmem
  refine ⟨fun hf => hagree.apply_nonFinite hstep hf, ?_⟩
  intro hf
  obtain ⟨next, hnext, hafter⟩ := hagree.apply_finite hstep hf
  refine ⟨next, hnext, ?_⟩
  intro hfinite
  have hquery : next.query = ((Builder.start t).run (before ++ [step])).query := by
    rw [hafter.query, List.filter_eq_self.2 (by simpa using hfinite), Builder.run, Builder.run,
      List.foldl_append]
    rfl
  exact ⟨hquery, fun options => by rw [hquery]⟩

/-! ## A run with a join and a refused literal -/

namespace Blog

def users : Table where
  name := "users"
  columns := [("id", .required .int64)]
  isName := by decide
  areNames := by decide
  distinct := by decide

def posts : Table where
  name := "posts"
  columns := [("userId", .required .int64), ("rating", .optional .float64)]
  isName := by decide
  areNames := by decide
  distinct := by decide

def schema : Schema := [users, posts].foldl Schema.withTable Schema.empty

def userId : posts.Column := ⟨"userId", .required .int64, by decide⟩

def rating : posts.Column := ⟨"rating", .optional .float64, by decide⟩

def author : users.Column := ⟨"id", .required .int64, by decide⟩

def withAuthor : Step posts :=
  .join .inner users (by decide) [⟨.and, .compareColumns author .equal userId (by decide)⟩]

def ratedAbove (x : Binary64) : Step posts := .filter ⟨.and, .compare rating .greater (some x)⟩

def infinity : Binary64 := Floating.ofBits .binary64 0x7FF0000000000000

theorem holds {t : Table} (ht : t ∈ [users, posts]) : schema.Holds t :=
  Schema.holds_of_mem (by decide) ht

theorem joined_holds :
    ∀ step ∈ [withAuthor, ratedAbove infinity], ∀ other ∈ step.joined, schema.Holds other := by
  intro step hstep other hother
  have husers : other = users := by
    cases hstep with
    | head => exact List.mem_singleton.1 hother
    | tail _ hstep =>
      rw [List.mem_singleton.1 hstep] at hother
      cases hother
  exact holds (by rw [husers]; exact List.mem_cons_self)

/-- The join is accepted, and the comparison with an infinity after it is refused. -/
theorem join_then_infinity :
    ∃ first, schema.query "posts" = .ok first ∧
      (∃ next, first.apply withAuthor.asked = .ok next ∧
        next.query = ((Builder.start posts).run [withAuthor]).query) ∧
      (first.run [withAuthor.asked]).apply (ratedAbove infinity).asked =
        .error (.invalidQuery (.nonFinite ⟨"posts", "rating"⟩)) := by
  obtain ⟨first, hfirst, -, hcalls⟩ :=
    checked_simulates_typed (holds (t := posts) (by simp)) joined_holds
  obtain ⟨-, hjoin⟩ := hcalls [] withAuthor [ratedAbove infinity] rfl
  obtain ⟨hrefused, -⟩ := hcalls [withAuthor] (ratedAbove infinity) [] rfl
  obtain ⟨next, hnext, hquery⟩ := hjoin (by decide)
  obtain ⟨column, hcolumn, herror⟩ := hrefused (by decide)
  refine ⟨first, hfirst, ⟨next, hnext, (hquery (by simp)).1⟩, ?_⟩
  have hrating : some column = some ⟨"posts", "rating"⟩ := hcolumn.symm.trans (by decide)
  cases hrating
  exact herror

end Blog

end Typed
end CheckedSelect
