import CheckedSelect.Proofs.Query.NormalForm
import CheckedSelect.Proofs.Value.Literal

/-!
# CheckedSelect.Proofs.Query.Conditions

Conditions with the default options are self-delimiting, given what may come after them. A name
ends at its second backtick, and a literal at a blank outside its quotes.

* `name_selfDelimiting`, `reference_selfDelimiting`: names, alone and with their tables.
* `predicate_selfDelimiting`, `joinPredicate_selfDelimiting`: one condition.
* `Linked.row_selfDelimiting`: a row of conditions, which ends where the next word begins with
  neither the A of AND nor the O of OR.
-/

namespace CheckedSelect

open Text

/-! ## Names -/

theorem Identifier.backtick_not_mem_sanitize (name : String) : '`' ∉ (sanitize name).toList := by
  rw [toList_sanitize]
  intro h
  exact absurd (List.mem_filter.1 h).2 (by decide)

theorem Identifier.toList_render_default (name : String) :
    (render default name).toList = '`' :: ((sanitize name).toList ++ ['`']) := by
  show ("`" ++ sanitize name ++ "`").toList = _
  simp

theorem name_selfDelimiting :
    SelfDelimiting (Identifier.render default) Identifier.sanitize fun _ => True := by
  intro a b x y _ _ h
  rw [Identifier.toList_render_default, Identifier.toList_render_default] at h
  simp only [List.cons_append, List.append_assoc, List.nil_append] at h
  obtain ⟨hname, hxy⟩ := append_inj_of_not_mem (Identifier.backtick_not_mem_sanitize a)
    (Identifier.backtick_not_mem_sanitize b) (List.cons.inj h).2
  exact ⟨String.toList_inj.1 hname, hxy⟩

theorem Reference.toList_render (o : RenderOptions) (r : Reference) :
    (r.render o).toList =
      (Identifier.render o r.table).toList ++ '.' :: (Identifier.render o r.column).toList := by
  simp [Reference.render, Identifier.renderQualified]

theorem reference_selfDelimiting :
    SelfDelimiting (Reference.render default) Reference.normal fun _ => True := by
  intro a b x y _ _ h
  rw [Reference.toList_render, Reference.toList_render, List.append_assoc, List.append_assoc] at h
  obtain ⟨htable, hrest⟩ := name_selfDelimiting trivial trivial h
  obtain ⟨hcolumn, hxy⟩ := name_selfDelimiting trivial trivial (List.cons.inj hrest).2
  exact ⟨by rw [Reference.normal, Reference.normal, htable, hcolumn], hxy⟩

/-! ## Comparisons -/

/-- The right side of a comparison. -/
inductive Operand (ν : Type) where
  | literal (v : Value)
  | name (n : ν)

namespace Operand

variable {ν μ : Type}

def render (write : ν → String) : Operand ν → String
  | .literal v => v.literal true
  | .name n => write n

def normal (meaning : ν → μ) : Operand ν → Operand μ
  | .literal v => .literal v.normal
  | .name n => .name (meaning n)

/-- A literal and a name between backticks differ in their first character. -/
theorem selfDelimiting {write : ν → String} {meaning : ν → μ}
    (hname : SelfDelimiting write meaning fun _ => True)
    (htick : ∀ n, ∃ r, (write n).toList = '`' :: r) :
    SelfDelimiting (render write) (normal meaning) (Next []) := by
  intro a b x y hx hy h
  cases a with
  | literal v =>
    cases b with
    | literal w =>
      obtain ⟨hv, hxy⟩ := Value.literal_selfDelimiting hx hy h
      exact ⟨by rw [normal, normal, Value.normal, hv, Value.normal], hxy⟩
    | name n =>
      obtain ⟨r, hr⟩ := htick n
      rw [render, render, hr] at h
      exact absurd h (Value.literal_ne_backtick hx)
  | name m =>
    cases b with
    | literal w =>
      obtain ⟨r, hr⟩ := htick m
      rw [render, render, hr] at h
      exact absurd h.symm (Value.literal_ne_backtick hy)
    | name n =>
      obtain ⟨hname, hxy⟩ := hname trivial trivial h
      exact ⟨by rw [normal, normal, hname], hxy⟩

end Operand

theorem Operator.symbol_append_inj {a b : Operator} {x y : List Char}
    (h : a.symbol.toList ++ x = b.symbol.toList ++ y) : a = b ∧ x = y := by
  cases a <;> cases b <;> simp_all [symbol]

theorem Operator.symbol_append_ne_word {a : Operator} {x y : List Char} :
    a.symbol.toList ++ x ≠ 'I' :: y := by
  cases a <;> simp [symbol]

theorem toList_comparison (left right : String) (operator : Operator) :
    (comparison left operator right).toList =
      left.toList ++ ' ' :: (operator.symbol.toList ++ ' ' :: right.toList) := by
  simp [comparison]

/-! ## Conditions on one table -/

/-- What a condition says of its first column. -/
inductive Saying where
  | isNull
  | isNotNull
  | compare (operator : Operator) (right : Operand String)

namespace Saying

def text : Saying → String
  | .isNull => "IS NULL"
  | .isNotNull => "IS NOT NULL"
  | .compare operator right =>
    operator.symbol ++ " " ++ right.render (Identifier.render default)

def normal : Saying → Saying
  | .isNull => .isNull
  | .isNotNull => .isNotNull
  | .compare operator right => .compare operator (right.normal Identifier.sanitize)

theorem toList_text_compare (operator : Operator) (right : Operand String) :
    (compare operator right).text.toList =
      operator.symbol.toList ++ ' ' :: (right.render (Identifier.render default)).toList := by
  simp [text]

theorem text_append_inj {a b : Saying} {x y : List Char} (hx : Next [] x) (hy : Next [] y)
    (h : a.text.toList ++ x = b.text.toList ++ y) : a.normal = b.normal ∧ x = y := by
  cases a with
  | isNull =>
    cases b with
    | isNull => exact ⟨rfl, by simpa [text] using h⟩
    | isNotNull => simp [text] at h
    | compare _ _ =>
      rw [toList_text_compare, List.append_assoc] at h
      exact absurd h.symm Operator.symbol_append_ne_word
  | isNotNull =>
    cases b with
    | isNull => simp [text] at h
    | isNotNull => exact ⟨rfl, by simpa [text] using h⟩
    | compare _ _ =>
      rw [toList_text_compare, List.append_assoc] at h
      exact absurd h.symm Operator.symbol_append_ne_word
  | compare o right =>
    cases b with
    | isNull =>
      rw [toList_text_compare, List.append_assoc] at h
      exact absurd h Operator.symbol_append_ne_word
    | isNotNull =>
      rw [toList_text_compare, List.append_assoc] at h
      exact absurd h Operator.symbol_append_ne_word
    | compare o' right' =>
      rw [toList_text_compare, toList_text_compare, List.append_assoc, List.append_assoc] at h
      obtain ⟨rfl, hright⟩ := Operator.symbol_append_inj h
      have htick : ∀ n, ∃ r, (Identifier.render default n).toList = '`' :: r :=
        fun n => ⟨_, Identifier.toList_render_default n⟩
      obtain ⟨hnormal, hxy⟩ := Operand.selfDelimiting name_selfDelimiting htick hx hy
        (List.cons.inj hright).2
      exact ⟨by rw [normal, normal, hnormal], hxy⟩

end Saying

namespace Predicate

/-- The column that a condition begins with. -/
def column : Predicate → String
  | .compare column _ _ => column
  | .isNull column => column
  | .isNotNull column => column
  | .compareColumns left _ _ => left

def saying : Predicate → Saying
  | .compare _ operator value => .compare operator (.literal value)
  | .isNull _ => .isNull
  | .isNotNull _ => .isNotNull
  | .compareColumns _ operator right => .compare operator (.name right)

theorem ext_saying {p q : Predicate} (hcolumn : p.column = q.column) (hsaying : p.saying = q.saying) :
    p = q := by
  cases p <;> cases q <;> simp_all [column, saying]

theorem column_normal (p : Predicate) : p.normal.column = Identifier.sanitize p.column := by
  cases p <;> rfl

theorem saying_normal (p : Predicate) : p.normal.saying = p.saying.normal := by
  cases p <;> rfl

theorem toList_render (p : Predicate) :
    (p.render default).toList =
      (Identifier.render default p.column).toList ++ ' ' :: p.saying.text.toList := by
  cases p with
  | compare column operator value =>
    rw [saying, Saying.toList_text_compare]
    exact toList_comparison _ _ _
  | isNull column => simp [render, Predicate.column, saying, Saying.text]
  | isNotNull column => simp [render, Predicate.column, saying, Saying.text]
  | compareColumns left operator right =>
    rw [saying, Saying.toList_text_compare]
    exact toList_comparison _ _ _

end Predicate

theorem predicate_selfDelimiting :
    SelfDelimiting (Predicate.render default) Predicate.normal (Next []) := by
  intro p q x y hx hy h
  rw [Predicate.toList_render, Predicate.toList_render, List.append_assoc, List.append_assoc] at h
  obtain ⟨hcolumn, hrest⟩ := name_selfDelimiting trivial trivial h
  obtain ⟨hsaying, hxy⟩ := Saying.text_append_inj hx hy (List.cons.inj hrest).2
  refine ⟨Predicate.ext_saying ?_ ?_, hxy⟩
  · rw [Predicate.column_normal, Predicate.column_normal, hcolumn]
  · rw [Predicate.saying_normal, Predicate.saying_normal, hsaying]

/-! ## Conditions of a join -/

namespace JoinPredicate

def column : JoinPredicate → Reference
  | .compare column _ _ => column
  | .compareColumns left _ _ => left

def operator : JoinPredicate → Operator
  | .compare _ operator _ => operator
  | .compareColumns _ operator _ => operator

def right : JoinPredicate → Operand Reference
  | .compare _ _ value => .literal value
  | .compareColumns _ _ right => .name right

theorem ext_sides {p q : JoinPredicate} (hcolumn : p.column = q.column)
    (hoperator : p.operator = q.operator) (hright : p.right = q.right) : p = q := by
  cases p <;> cases q <;> simp_all [column, operator, right]

theorem column_normal (p : JoinPredicate) : p.normal.column = p.column.normal := by
  cases p <;> rfl

theorem operator_normal (p : JoinPredicate) : p.normal.operator = p.operator := by
  cases p <;> rfl

theorem right_normal (p : JoinPredicate) : p.normal.right = p.right.normal Reference.normal := by
  cases p <;> rfl

theorem toList_render (p : JoinPredicate) :
    (p.render default).toList = (p.column.render default).toList ++
      ' ' :: (p.operator.symbol.toList ++ ' ' :: (p.right.render (Reference.render default)).toList) := by
  cases p with
  | compare column operator value => exact toList_comparison _ _ _
  | compareColumns left operator right => exact toList_comparison _ _ _

end JoinPredicate

theorem joinPredicate_selfDelimiting :
    SelfDelimiting (JoinPredicate.render default) JoinPredicate.normal (Next []) := by
  intro p q x y hx hy h
  simp only [JoinPredicate.toList_render, List.append_assoc, List.cons_append] at h
  obtain ⟨hcolumn, hrest⟩ := reference_selfDelimiting trivial trivial h
  obtain ⟨hoperator, hright⟩ := Operator.symbol_append_inj (List.cons.inj hrest).2
  have htick : ∀ n : Reference, ∃ r, (n.render default).toList = '`' :: r := by
    intro n
    rw [Reference.toList_render, Identifier.toList_render_default]
    exact ⟨_, rfl⟩
  obtain ⟨hnormal, hxy⟩ := Operand.selfDelimiting reference_selfDelimiting htick hx hy
    (List.cons.inj hright).2
  refine ⟨JoinPredicate.ext_sides ?_ ?_ ?_, hxy⟩
  · rw [JoinPredicate.column_normal, JoinPredicate.column_normal, hcolumn]
  · rw [JoinPredicate.operator_normal, JoinPredicate.operator_normal, hoperator]
  · rw [JoinPredicate.right_normal, JoinPredicate.right_normal, hnormal]

/-! ## Rows of conditions -/

/-- The letters that the connecting words begin with, and that of ON, which stands before the first
condition of a join. -/
def relationLetters : List Char := ['A', 'O']

theorem Relation.toList_keyword (r : Relation) :
    ∃ c cs, r.keyword.toList = c :: cs ∧ c ∈ relationLetters := by
  cases r with
  | and => exact ⟨'A', ['N', 'D'], by decide, by decide⟩
  | or => exact ⟨'O', ['R'], by decide, by decide⟩

theorem Relation.keyword_append_inj {r r' : Relation} {x y : List Char}
    (h : r.keyword.toList ++ ' ' :: x = r'.keyword.toList ++ ' ' :: y) : r = r' ∧ x = y := by
  cases r <;> cases r' <;> simp_all [keyword]

namespace Linked

variable {α β : Type} {write : α → String} {meaning : α → β}

theorem toList_render (write : α → String) (c : Linked α) :
    (c.render write).toList =
      ' ' :: (c.relation.keyword.toList ++ ' ' :: (write c.condition).toList) := by
  simp [Linked.render]

/-- A further condition begins like a word of this kind. -/
theorem exists_render_append (write : α → String) (c : Linked α) (x : List Char) :
    ∃ k r, (c.render write).toList ++ x = ' ' :: k :: r ∧ k ∈ relationLetters := by
  obtain ⟨k, ks, hk, hmem⟩ := c.relation.toList_keyword
  refine ⟨k, ks ++ ' ' :: (write c.condition).toList ++ x, ?_, hmem⟩
  rw [toList_render, hk]
  rfl

theorem selfDelimiting (h : SelfDelimiting write meaning (Next [])) :
    SelfDelimiting (Linked.render write) (Linked.map meaning) (Next []) := by
  intro c d x y hx hy heq
  rw [toList_render, toList_render] at heq
  simp only [List.cons_append, List.append_assoc] at heq
  obtain ⟨hrelation, hrest⟩ := Relation.keyword_append_inj (List.cons.inj heq).2
  obtain ⟨hcondition, hxy⟩ := h hx hy hrest
  exact ⟨by rw [Linked.map, Linked.map, hrelation, hcondition], hxy⟩

theorem next_render_append (write : α → String) (c : Linked α) (x : List Char) :
    Next [] ((c.render write).toList ++ x) := by
  obtain ⟨k, r, hk, -⟩ := exists_render_append write c x
  rw [hk]
  exact .word List.not_mem_nil

theorem not_next_render_append (write : α → String) (c : Linked α) (x : List Char) :
    ¬ Next relationLetters ((c.render write).toList ++ x) := by
  intro hx
  obtain ⟨k, r, hk, hmem⟩ := exists_render_append write c x
  rw [hk] at hx
  exact hx.second_not_mem hmem

theorem row_selfDelimiting (h : SelfDelimiting write meaning (Next [])) :
    SelfDelimiting (fun cs => String.join (cs.map (Linked.render write)))
      (List.map (Linked.map meaning)) (Next relationLetters) :=
  (selfDelimiting h).join (next_render_append write) (fun _ hx => hx.mono (by simp))
    (not_next_render_append write)

theorem next_row (write : α → String) (cs : List (Linked α)) {x : List Char}
    (hx : Next relationLetters x) :
    Next [] ((String.join (cs.map (Linked.render write))).toList ++ x) :=
  within_join (next_render_append write) (fun _ hx => hx.mono (by simp)) cs hx

end Linked

end CheckedSelect
