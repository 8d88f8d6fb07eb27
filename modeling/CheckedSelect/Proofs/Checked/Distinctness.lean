import CheckedSelect.Proofs.Checked.Reachable
import CheckedSelect.Proofs.Identifier
import CheckedSelect.Query.Rendering

/-!
# CheckedSelect.Proofs.Checked.Distinctness

Whether the two sides of a comparison of columns, and the two tables of a join, are still two in the
text of a statement. The builder keeps the names apart; writing them drops characters.

* `ComparesApart`, `JoinsApart`: the two rules, of the names as they are written.
* `same_text_of_different_names`: neither rule holds of every query that is reached.
* `written_apart_iff`: the names themselves always differ, and are written alike exactly when the
  same characters of them are kept. So the rules hold wherever the names of a schema stay apart.
-/

namespace CheckedSelect

namespace Query

/-- No comparison of columns is written with one name on both sides. -/
def ComparesApart (o : RenderOptions) (q : Query) : Prop :=
  ∀ relation left operator right, ⟨relation, .compareColumns left operator right⟩ ∈ q.filters →
    Identifier.render o left ≠ Identifier.render o right

/-- No joined table is written as the first one is. -/
def JoinsApart (o : RenderOptions) (q : Query) : Prop :=
  ∀ j ∈ q.joins, Identifier.render o j.table ≠ Identifier.render o q.table

end Query

/-- Different names of the map keep different characters. -/
def StayApart {α : Type} (m : NameMap α) : Prop :=
  ∀ a ∈ m.toList, ∀ b ∈ m.toList,
    Identifier.sanitize a.1 = Identifier.sanitize b.1 → a.1 = b.1

instance {α : Type} (m : NameMap α) : Decidable (StayApart m) :=
  inferInstanceAs (Decidable (∀ a ∈ m.toList, ∀ b ∈ m.toList,
    Identifier.sanitize a.1 = Identifier.sanitize b.1 → a.1 = b.1))

namespace Checked

namespace Lossy

def letters : TableDef := (TableDef.empty.column "a" .integer).column "a!" .integer

def schema : Schema := (Schema.empty.table "t" letters).table "t!" TableDef.empty

def builder : Builder :=
  Builder.run ⟨⟨schema, "t", letters⟩, { table := "t" }⟩
    [.filter ⟨.and, .compareColumns "a" .equal "a!"⟩, .join .inner "t!" []]

/-- Two columns, and two tables, whose names differ in a character that is dropped. -/
theorem same_text_of_different_names :
    Reachable schema "t" builder ∧
    ∀ o, ¬ builder.query.ComparesApart o ∧ ¬ builder.query.JoinsApart o := by
  have hstart : Reachable schema "t" ⟨⟨schema, "t", letters⟩, { table := "t" }⟩ := .start rfl
  have hquery : builder.query = { table := "t"
                                  filters := [⟨.and, .compareColumns "a" .equal "a!"⟩]
                                  joins := [⟨.inner, "t!", []⟩] } := rfl
  refine ⟨hstart.run _, ?_⟩
  intro o
  rw [hquery]
  constructor
  · intro h
    have hsame : Identifier.sanitize "a" = Identifier.sanitize "a!" := by decide
    exact h .and "a" .equal "a!" List.mem_cons_self (Identifier.render_eq_iff.2 hsame)
  · intro h
    have hsame : Identifier.sanitize "t!" = Identifier.sanitize "t" := by decide
    exact h ⟨.inner, "t!", []⟩ List.mem_cons_self (Identifier.render_eq_iff.2 hsame)

end Lossy

/-! ## The names themselves -/

section Names

variable {schema : Schema} {table : String} {b : Builder} (h : Reachable schema table b)
include h

/-- A comparison of columns is between two columns of the table. -/
theorem Reachable.two_columns {definition : TableDef} (hd : schema.get? table = some definition)
    {relation : Relation} {left right : String} {operator : Operator}
    (hmem : ⟨relation, .compareColumns left operator right⟩ ∈ b.query.filters) :
    left ≠ right ∧ ∃ l r, (left, l) ∈ definition.toList ∧ (right, r) ∈ definition.toList := by
  obtain ⟨found, hfound, hscope, hwf⟩ := h.invariant
  obtain rfl : definition = found := Option.some.inj (hd.symm.trans hfound)
  have hin := hwf.filters _ hmem
  rw [hscope] at hin
  obtain ⟨hne, l, r, hl, hr, -⟩ := hin
  exact ⟨hne, l, r, mem_of_lookup hl, mem_of_lookup hr⟩

/-- A join is of two tables of the schema. -/
theorem Reachable.two_tables {j : Join} (hj : j ∈ b.query.joins) :
    j.table ≠ b.query.table ∧
      ∃ t t', (j.table, t) ∈ schema.toList ∧ (b.query.table, t') ∈ schema.toList := by
  obtain ⟨definition, hd, hscope, hwf⟩ := h.invariant
  have hin := hwf.joins j hj
  have htable := hwf.table
  rw [hscope] at hin htable
  obtain ⟨hne, other, hother, -⟩ := hin
  rw [htable]
  exact ⟨hne, other, definition, mem_of_lookup hother, mem_of_lookup hd⟩

end Names

/-- The names that a comparison or a join of a reached query puts side by side always differ, and
are written alike exactly when the same characters of them are kept. Where the names of a schema
stay apart, the query is written with two names wherever two are meant. -/
theorem written_apart_iff {schema : Schema} {table : String} {b : Builder}
    (h : Reachable schema table b) (o : RenderOptions) :
    (∀ relation left operator right,
      ⟨relation, .compareColumns left operator right⟩ ∈ b.query.filters →
      left ≠ right ∧ (Identifier.render o left = Identifier.render o right ↔
        Identifier.sanitize left = Identifier.sanitize right)) ∧
    (∀ j ∈ b.query.joins, j.table ≠ b.query.table ∧
      (Identifier.render o j.table = Identifier.render o b.query.table ↔
        Identifier.sanitize j.table = Identifier.sanitize b.query.table)) ∧
    (∀ definition, schema.find table = .ok definition → StayApart definition →
      b.query.ComparesApart o) ∧
    (StayApart schema → b.query.JoinsApart o) := by
  refine ⟨?_, ?_, ?_, ?_⟩
  · intro relation left operator right hmem
    obtain ⟨definition, hd, -⟩ := h.invariant
    exact ⟨(h.two_columns hd hmem).1, Identifier.render_eq_iff⟩
  · intro j hj
    exact ⟨(h.two_tables hj).1, Identifier.render_eq_iff⟩
  · intro definition hfind hapart relation left operator right hmem hsame
    obtain ⟨hne, l, r, hl, hr⟩ := h.two_columns (Schema.find_eq_ok_iff.1 hfind) hmem
    exact hne (hapart _ hl _ hr (Identifier.render_eq_iff.1 hsame))
  · intro hapart j hj hsame
    obtain ⟨hne, t, t', ht, ht'⟩ := h.two_tables hj
    exact hne (hapart _ ht _ ht' (Identifier.render_eq_iff.1 hsame))

namespace Punctuated

def people : TableDef := (TableDef.empty.column "i d" .integer).column "own;er" .integer

def schema : Schema := (Schema.empty.table "us ers" people).table "po,sts" TableDef.empty

def builder : Builder :=
  Builder.run ⟨⟨schema, "us ers", people⟩, { table := "us ers" }⟩
    [.filter ⟨.or, .compareColumns "i d" .less "own;er"⟩, .join .left "po,sts" []]

/-- Every name loses a character, and there are two names on both sides all the same. -/
theorem punctuated_written_apart :
    Reachable schema "us ers" builder ∧ StayApart people ∧ StayApart schema ∧
    ("i d" ≠ "own;er" ∧
      (Identifier.render .plain "i d" = Identifier.render .plain "own;er" ↔
        Identifier.sanitize "i d" = Identifier.sanitize "own;er")) ∧
    ("po,sts" ≠ "us ers" ∧
      (Identifier.render .plain "po,sts" = Identifier.render .plain "us ers" ↔
        Identifier.sanitize "po,sts" = Identifier.sanitize "us ers")) ∧
    builder.query.ComparesApart .plain ∧ builder.query.JoinsApart .plain := by
  have hstart : Reachable schema "us ers" ⟨⟨schema, "us ers", people⟩, { table := "us ers" }⟩ :=
    .start rfl
  have hbuilder : Reachable schema "us ers" builder := hstart.run _
  have hpeople : StayApart people := by decide
  have hschema : StayApart schema := by decide
  obtain ⟨hfilters, hjoins, hcolumns, htables⟩ := written_apart_iff hbuilder .plain
  exact ⟨hbuilder, hpeople, hschema, hfilters .or "i d" .less "own;er" List.mem_cons_self,
    hjoins ⟨.left, "po,sts", []⟩ List.mem_cons_self, hcolumns people rfl hpeople, htables hschema⟩

end Punctuated

end Checked
end CheckedSelect
