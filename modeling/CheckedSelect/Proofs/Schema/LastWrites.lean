import CheckedSelect.Proofs.Checked.Acceptance
import CheckedSelect.Proofs.NameMap
import CheckedSelect.Proofs.Text.ByteOrder
import CheckedSelect.Schema.Codec
import Mathlib.Data.List.Dedup

/-!
# CheckedSelect.Proofs.Schema.LastWrites

Tables and schemas that are put together call by call.

* `NameMap.LeftBy`: what writes in a row leave in a map. `leftBy_ofList` says that it is left.
* `NameMap.ofList_eq_of_keepsOrder`: only the order of writes to one name matters.
* `TableDef.Call`, `TableDef.ofCalls`, `Schema.ofCalls`: the calls that define columns and tables.
* `definitions_last_write`: the two kinds of definitions are such maps, look-ups in a schema say
  what is missing, and calls with different names may change places.
-/

namespace CheckedSelect

namespace NameMap

variable {α : Type}

/-- What writes in a row leave: each name that was written stands there once, in the order of UTF-8
bytes, with the value that was written to it last. -/
structure LeftBy (writes : List (String × α)) (m : NameMap α) : Prop where
  ascending : m.names.Pairwise fun a b => Text.utf8 a < Text.utf8 b
  once : ∀ name, m.names.count name = if name ∈ writes.map Prod.fst then 1 else 0
  last : ∀ before name value after, writes = before ++ (name, value) :: after →
    name ∉ after.map Prod.fst → (name, value) ∈ m.toList ∧ m.get? name = some value
  absent : ∀ name, name ∉ writes.map Prod.fst → m.get? name = none
  size : m.size = (writes.map Prod.fst).dedup.length
  isEmpty : m.isEmpty = true ↔ m.size = 0

/-- Writes to one name are made in the same order. -/
def KeepsOrder (writes writes' : List (String × α)) : Prop :=
  ∀ name, writes.filter (fun e => e.1 = name) = writes'.filter fun e => e.1 = name

/-! ## What is left -/

theorem mem_names_iff {m : NameMap α} {name : String} :
    name ∈ m.names ↔ m.get? name ≠ none := by
  rw [names, List.mem_map, Option.ne_none_iff_exists']
  simp only [get?_eq_some_iff]
  constructor
  · rintro ⟨⟨name, value⟩, h, rfl⟩
    exact ⟨value, h⟩
  · rintro ⟨value, h⟩
    exact ⟨(name, value), h, rfl⟩

theorem get?_ofList_eq_none_iff {writes : List (String × α)} {name : String} :
    (ofList writes).get? name = none ↔ name ∉ writes.map Prod.fst := by
  rw [get?_ofList, List.lookup_eq_none_iff, List.mem_map]
  constructor
  · rintro h ⟨e, he, rfl⟩
    exact absurd (h e (List.mem_reverse.2 he)) (by simp)
  · intro h e he
    rw [bne_iff_ne]
    rintro rfl
    exact h ⟨e, List.mem_reverse.1 he, rfl⟩

theorem mem_names_ofList {writes : List (String × α)} {name : String} :
    name ∈ (ofList writes).names ↔ name ∈ writes.map Prod.fst := by
  rw [mem_names_iff, Ne, get?_ofList_eq_none_iff, not_not]

/-- A write is found where none to the same name comes after it. -/
theorem get?_ofList_last {before after : List (String × α)} {name : String} {value : α}
    (h : name ∉ after.map Prod.fst) :
    (ofList (before ++ (name, value) :: after)).get? name = some value := by
  have hsplit : ofList (before ++ (name, value) :: after) =
      ((ofList before).insert name value).insertAll after := by
    rw [ofList, List.foldl_append]
    rfl
  rw [hsplit, get?_insertAll_of_not_mem h, get?_insert, if_pos rfl]

theorem leftBy_ofList (writes : List (String × α)) : LeftBy writes (ofList writes) where
  ascending := (ofList writes).names_ascending.imp Text.utf8_lt_iff.2
  once := by
    intro name
    by_cases h : name ∈ writes.map Prod.fst
    · rw [if_pos h]
      exact List.count_eq_one_of_mem (names_nodup _) (mem_names_ofList.2 h)
    · rw [if_neg h]
      exact List.count_eq_zero.2 fun hmem => h (mem_names_ofList.1 hmem)
  last := by
    rintro before name value after rfl h
    have hfound : (ofList (before ++ (name, value) :: after)).get? name = some value :=
      get?_ofList_last h
    exact ⟨get?_eq_some_iff.1 hfound, hfound⟩
  absent := fun _ => get?_ofList_eq_none_iff.2
  size := by
    have hperm : (ofList writes).names.Perm (writes.map Prod.fst).dedup := by
      rw [List.perm_ext_iff_of_nodup (names_nodup _) (List.nodup_dedup _)]
      intro name
      rw [mem_names_ofList, List.mem_dedup]
    rw [← hperm.length_eq, names, List.length_map]
    rfl
  isEmpty := by
    rw [NameMap.isEmpty, NameMap.size, List.isEmpty_iff, List.length_eq_zero_iff]

/-! ## Writes in another order -/

theorem eq_of_get?_eq {m m' : NameMap α} (h : ∀ name, m.get? name = m'.get? name) : m = m' := by
  have hperm : m.toList.Perm m'.toList := by
    rw [List.perm_ext_iff_of_nodup (m.names_nodup.of_map _) (m'.names_nodup.of_map _)]
    rintro ⟨name, value⟩
    rw [← get?_eq_some_iff, h, get?_eq_some_iff]
  apply ext
  refine hperm.eq_of_pairwise ?_ m.ascending m'.ascending
  intro a b _ _ hab hba
  exact absurd hba (String.lt_asymm hab)

theorem lookup_filter (entries : List (String × α)) (name : String) :
    (entries.filter fun e => e.1 = name).lookup name = entries.lookup name := by
  induction entries with
  | nil => rfl
  | cons e rest ih =>
    obtain ⟨other, value⟩ := e
    rw [List.filter_cons, lookup_cons]
    by_cases h : name = other
    · rw [if_pos (by simp [h]), if_pos h, lookup_cons, if_pos h]
    · rw [if_neg (by simpa using Ne.symm h), if_neg h, ih]

theorem ofList_eq_of_keepsOrder {writes writes' : List (String × α)}
    (h : KeepsOrder writes writes') : ofList writes = ofList writes' := by
  apply eq_of_get?_eq
  intro name
  rw [get?_ofList, get?_ofList, ← lookup_filter, List.filter_reverse, h name, ← List.filter_reverse,
    lookup_filter]

/-- Where no name is written twice there is no order to keep. -/
theorem keepsOrder_of_nodup {writes writes' : List (String × α)} (h : writes.Perm writes')
    (hnodup : (writes.map Prod.fst).Nodup) : KeepsOrder writes writes' := by
  intro name
  have hperm := h.filter fun e => e.1 = name
  -- At most one write is to this name, and lists with one element have one order.
  cases hwrites : writes.filter fun e => e.1 = name with
  | nil =>
    rw [hwrites] at hperm
    exact hperm.nil_eq
  | cons e rest =>
    have hnone : rest = [] := by
      have hsub : ((e :: rest).map Prod.fst).Sublist (writes.map Prod.fst) := by
        rw [← hwrites]
        exact List.filter_sublist.map Prod.fst
      have hname : ∀ e' ∈ e :: rest, e'.1 = name := by
        intro e' he'
        rw [← hwrites] at he'
        exact of_decide_eq_true (List.mem_filter.1 he').2
      have hfresh := (List.nodup_cons.1 (hnodup.sublist hsub)).1
      apply List.eq_nil_iff_forall_not_mem.2
      intro e' he'
      apply hfresh
      rw [hname e List.mem_cons_self, ← hname e' (List.mem_cons_of_mem _ he')]
      exact List.mem_map_of_mem he'
    rw [hwrites, hnone] at hperm
    rw [hnone, List.singleton_perm.1 hperm]

end NameMap

/-! ## Calls -/

namespace TableDef

/-- A call that defines a column. -/
inductive Call where
  | column (name : String) (kind : ValueKind)
  | nullableColumn (name : String) (kind : ValueKind)
  deriving DecidableEq, Repr

/-- The column that a call defines. -/
def Call.entry : Call → String × ColumnDef
  | .column name kind => (name, ⟨kind, false⟩)
  | .nullableColumn name kind => (name, ⟨kind, true⟩)

def define (t : TableDef) : Call → TableDef
  | .column name kind => t.column name kind
  | .nullableColumn name kind => t.nullableColumn name kind

def ofCalls (calls : List Call) : TableDef := calls.foldl define empty

theorem ofCalls_eq_ofList (calls : List Call) :
    ofCalls calls = NameMap.ofList (calls.map Call.entry) := by
  have hdefine : define = fun t c => NameMap.insert t c.entry.1 c.entry.2 := by
    funext t c
    cases c with
    | column name kind => rfl
    | nullableColumn name kind => rfl
  rw [ofCalls, NameMap.ofList, List.foldl_map, hdefine]
  rfl

end TableDef

namespace Schema

/-- The schema of tables that are added one after the other. -/
def ofCalls (calls : List (String × TableDef)) : Schema :=
  calls.foldl (fun s c => s.table c.1 c.2) empty

theorem column_eq_ok_iff {s : Schema} {table column : String} {d : ColumnDef} :
    s.column table column = .ok d ↔
      ∃ definition, s.find table = .ok definition ∧ definition.get? column = some d := by
  unfold Schema.column
  cases s.find table with
  | error cause => simp
  | ok definition =>
    cases hd : definition.get? column with
    | none => simp [hd]
    | some d' => simp [hd]

theorem column_eq_error_iff {s : Schema} {table column : String} {cause : Rejection} :
    s.column table column = .error cause ↔
      (s.get? table = none ∧ cause = .tableNotFound table) ∨
        ∃ definition, s.find table = .ok definition ∧ definition.get? column = none ∧
          cause = .columnNotFound table column := by
  rw [← find_eq_error_iff]
  unfold Schema.column
  cases s.find table with
  | error cause' => simp
  | ok definition =>
    cases hd : definition.get? column with
    | none => simp [hd, eq_comm]
    | some d' => simp [hd]

end Schema

/-- Tables and schemas are ordered maps in which the last write wins. A look-up in a schema fails
with what is missing. The order of calls counts only among those with one name. -/
theorem definitions_last_write :
    (∀ calls : List TableDef.Call,
      NameMap.LeftBy (calls.map TableDef.Call.entry) (TableDef.ofCalls calls)) ∧
    (∀ calls : List (String × TableDef), NameMap.LeftBy calls (Schema.ofCalls calls)) ∧
    (∀ (s : Schema) (table : String),
      (∀ definition, s.find table = .ok definition ↔ s.get? table = some definition) ∧
      (∀ cause, s.find table = .error cause ↔
        s.get? table = none ∧ cause = .tableNotFound table) ∧
      ∀ column,
        (∀ d, s.column table column = .ok d ↔
          ∃ definition, s.find table = .ok definition ∧ definition.get? column = some d) ∧
        ∀ cause, s.column table column = .error cause ↔
          (s.get? table = none ∧ cause = .tableNotFound table) ∨
            ∃ definition, s.find table = .ok definition ∧ definition.get? column = none ∧
              cause = .columnNotFound table column) ∧
    (∀ calls calls' : List TableDef.Call, calls.Perm calls' →
      ((calls.map TableDef.Call.entry).map Prod.fst).Nodup ∨
        NameMap.KeepsOrder (calls.map TableDef.Call.entry) (calls'.map TableDef.Call.entry) →
      TableDef.ofCalls calls = TableDef.ofCalls calls' ∧
        ∀ (s : Schema) (table : String), (s.table table (TableDef.ofCalls calls)).toText =
          (s.table table (TableDef.ofCalls calls')).toText) ∧
    ∀ calls calls' : List (String × TableDef), calls.Perm calls' →
      (calls.map Prod.fst).Nodup ∨ NameMap.KeepsOrder calls calls' →
      Schema.ofCalls calls = Schema.ofCalls calls' ∧
        (Schema.ofCalls calls).toText = (Schema.ofCalls calls').toText := by
  refine ⟨?_, NameMap.leftBy_ofList, ?_, ?_, ?_⟩
  · intro calls
    rw [TableDef.ofCalls_eq_ofList]
    exact NameMap.leftBy_ofList _
  · intro s table
    exact ⟨fun _ => Schema.find_eq_ok_iff, fun _ => Schema.find_eq_error_iff,
      fun column => ⟨fun _ => Schema.column_eq_ok_iff, fun _ => Schema.column_eq_error_iff⟩⟩
  · intro calls calls' hperm h
    have hsame : TableDef.ofCalls calls = TableDef.ofCalls calls' := by
      rw [TableDef.ofCalls_eq_ofList, TableDef.ofCalls_eq_ofList]
      apply NameMap.ofList_eq_of_keepsOrder
      exact h.elim (NameMap.keepsOrder_of_nodup (hperm.map _)) id
    refine ⟨hsame, ?_⟩
    intro s table
    rw [hsame]
  · intro calls calls' hperm h
    have hsame : Schema.ofCalls calls = Schema.ofCalls calls' :=
      NameMap.ofList_eq_of_keepsOrder (h.elim (NameMap.keepsOrder_of_nodup hperm) id)
    exact ⟨hsame, congrArg Schema.toText hsame⟩

namespace Marks

def smileFirst : List TableDef.Call :=
  [.column "😀" .text, .nullableColumn "\uffff" .uuid, .column "a" .integer]

def smileLast : List TableDef.Call :=
  [.column "a" .integer, .nullableColumn "\uffff" .uuid, .column "😀" .text]

def tables : List (String × TableDef) :=
  [("😀", TableDef.empty), ("\uffff", TableDef.ofCalls smileFirst)]

/-- The smile comes last in UTF-8, though its first unit in UTF-16 is the smaller one. -/
theorem smile_after_noncharacter :
    smileFirst.Perm smileLast ∧ TableDef.ofCalls smileFirst = TableDef.ofCalls smileLast ∧
    (TableDef.ofCalls smileFirst).names = ["a", "\uffff", "😀"] ∧
    (Schema.ofCalls tables).toText = (Schema.ofCalls tables.reverse).toText := by
  have hperm : smileFirst.Perm smileLast := by decide
  have hcolumns : ((smileFirst.map TableDef.Call.entry).map Prod.fst).Nodup := by decide
  have hordered : (TableDef.ofCalls smileFirst).names = ["a", "\uffff", "😀"] := rfl
  have htables : (tables.map Prod.fst).Nodup := by decide
  obtain ⟨-, -, -, hsame, htext⟩ := definitions_last_write
  exact ⟨hperm, (hsame _ _ hperm (.inl hcolumns)).1, hordered,
    (htext _ _ tables.reverse_perm.symm (.inl htables)).2⟩

end Marks

end CheckedSelect
