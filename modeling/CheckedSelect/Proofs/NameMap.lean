import CheckedSelect.NameMap

/-!
# CheckedSelect.Proofs.NameMap

What a map holds after many writes.

* `get?_ofList`: the last entry of a name is the one that is found.
* `get?_ofList_map_of_mem`: where no name is written twice, every entry is found.
* `ofList_entries`: the entries of a map, written in their order, give the same map again.
* `get?_eq_some_iff`: what is found by its name is what is listed.
-/

namespace CheckedSelect

/-- Writes in ascending order go to the end. -/
theorem insertEntry_eq_append {α : Type} {name : String} {value : α}
    {entries : List (String × α)} (h : ∀ e ∈ entries, e.1 < name) :
    insertEntry name value entries = entries ++ [(name, value)] := by
  induction entries with
  | nil => rfl
  | cons e rest ih =>
    obtain ⟨other, old⟩ := e
    obtain ⟨hother, hrest⟩ := List.forall_mem_cons.1 h
    have hlt : other < name := hother
    have hge : ¬ name < other := String.lt_asymm hlt
    have hne : name ≠ other := by
      intro heq
      rw [heq] at hlt
      exact String.lt_irrefl other hlt
    rw [insertEntry, if_neg hge, if_neg hne, ih hrest]
    rfl

theorem lookup_map {α β : Type} (f : α → β) (entries : List (String × α)) (name : String) :
    (entries.map fun e => (e.1, f e.2)).lookup name = (entries.lookup name).map f := by
  induction entries with
  | nil => rfl
  | cons e rest ih =>
    rw [List.map_cons, lookup_cons, ih, lookup_cons]
    by_cases h : name = e.1
    · rw [if_pos h, if_pos h]
      rfl
    · rw [if_neg h, if_neg h]

namespace NameMap

variable {α : Type}

/-- All entries written, in the order of the list. -/
def insertAll (m : NameMap α) (entries : List (String × α)) : NameMap α :=
  entries.foldl (fun m e => m.insert e.1 e.2) m

theorem ofList_eq_insertAll (entries : List (String × α)) :
    ofList entries = insertAll empty entries := rfl

theorem insertAll_cons (m : NameMap α) (e : String × α) (rest : List (String × α)) :
    m.insertAll (e :: rest) = (m.insert e.1 e.2).insertAll rest := rfl

theorem ext {m m' : NameMap α} (h : m.entries = m'.entries) : m = m' := by
  cases m
  cases m'
  cases h
  rfl

/-- The last entry of a name is the one that is found. -/
theorem get?_insertAll (m : NameMap α) (entries : List (String × α)) (name : String) :
    (m.insertAll entries).get? name = (entries.reverse.lookup name).or (m.get? name) := by
  induction entries generalizing m with
  | nil => rfl
  | cons e rest ih =>
    rw [insertAll_cons, ih, get?_insert, List.reverse_cons, List.lookup_append, Option.or_assoc]
    congr 1
    rw [lookup_cons]
    by_cases h : name = e.1
    · rw [if_pos h, if_pos h]
      rfl
    · rw [if_neg h, if_neg h]
      rfl

theorem get?_insertAll_of_not_mem {m : NameMap α} {entries : List (String × α)} {name : String}
    (h : name ∉ entries.map Prod.fst) : (m.insertAll entries).get? name = m.get? name := by
  have hnone : entries.reverse.lookup name = none := by
    rw [List.lookup_eq_none_iff]
    intro e he
    rw [bne_iff_ne]
    intro heq
    rw [heq] at h
    exact h (List.mem_map_of_mem (List.mem_reverse.1 he))
  rw [get?_insertAll, hnone, Option.none_or]

theorem get?_ofList (entries : List (String × α)) (name : String) :
    (ofList entries).get? name = entries.reverse.lookup name := by
  rw [ofList_eq_insertAll, get?_insertAll, get?_empty, Option.or_none]

theorem get?_insertAll_of_mem {m : NameMap α} {entries : List (String × α)}
    (hnodup : (entries.map Prod.fst).Nodup) {e : String × α} (he : e ∈ entries) :
    (m.insertAll entries).get? e.1 = some e.2 := by
  induction entries generalizing m with
  | nil => cases he
  | cons e' rest ih =>
    rw [List.map_cons, List.nodup_cons] at hnodup
    obtain ⟨hfresh, hrest⟩ := hnodup
    rw [insertAll_cons]
    cases he with
    | head => rw [get?_insertAll_of_not_mem hfresh, get?_insert, if_pos rfl]
    | tail _ he => exact ih hrest he

theorem get?_ofList_map_of_mem {β : Type} {name : β → String} {value : β → α} {items : List β}
    (hnodup : (items.map name).Nodup) {item : β} (hitem : item ∈ items) :
    (ofList (items.map fun b => (name b, value b))).get? (name item) = some (value item) := by
  have hnames : (items.map fun b => (name b, value b)).map Prod.fst = items.map name := by
    rw [List.map_map]
    rfl
  rw [← hnames] at hnodup
  have hentry : (name item, value item) ∈ items.map fun b => (name b, value b) :=
    List.mem_map_of_mem hitem
  exact get?_insertAll_of_mem hnodup hentry

theorem entries_insertAll {m : NameMap α} {entries : List (String × α)}
    (h : Ascending (m.entries ++ entries)) : (m.insertAll entries).entries = m.entries ++ entries := by
  induction entries generalizing m with
  | nil => rw [List.append_nil]; rfl
  | cons e rest ih =>
    have hlast : (m.insert e.1 e.2).entries = m.entries ++ [e] := by
      apply insertEntry_eq_append
      intro e' he'
      exact (List.pairwise_append.1 h).2.2 e' he' e List.mem_cons_self
    rw [insertAll_cons, ih (by rwa [hlast, List.append_assoc]), hlast, List.append_assoc]
    rfl

theorem ofList_entries (m : NameMap α) : ofList m.entries = m := by
  have h : Ascending ((empty : NameMap α).entries ++ m.entries) := m.ascending
  apply ext
  rw [ofList_eq_insertAll, entries_insertAll h]
  rfl

def names (m : NameMap α) : List String := m.toList.map Prod.fst

theorem names_ascending (m : NameMap α) : m.names.Pairwise (· < ·) :=
  List.pairwise_map.2 m.ascending

theorem names_nodup (m : NameMap α) : m.names.Nodup := by
  apply m.names_ascending.imp
  intro a b hab heq
  exact String.lt_irrefl b (heq ▸ hab)

theorem get?_eq_some_iff {m : NameMap α} {name : String} {a : α} :
    m.get? name = some a ↔ (name, a) ∈ m.toList := by
  constructor
  · exact mem_of_lookup
  · intro h
    have hfound := get?_insertAll_of_mem (m := empty) m.names_nodup h
    rwa [← ofList_eq_insertAll, toList, ofList_entries] at hfound

end NameMap
end CheckedSelect
