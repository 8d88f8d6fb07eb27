import CheckedSelect.Json.Read
import CheckedSelect.Proofs.Json.Number

/-!
# CheckedSelect.Proofs.Json.RoundTrip

A document without floats is read from its own text, if the reader may open as many brackets as
there are.

* `Elements`: the texts of arrays up to the closing bracket, with what reading their elements in a
  row gives. `elements_eq`: the loop over elements follows it.
* `NoFloats`: the documents in which every number is whole; they are read back exactly.
* `document_reads`: the round trip, by the number of brackets that may still be opened.
* `agrees_self`: without floats, a document is equal to itself.
-/

namespace CheckedSelect
namespace Json

variable {α σ : Type}

/-! ## Arrays -/

/-- A value begins with neither a blank nor a closing bracket. -/
def Begins (text : List Char) : Prop :=
  ∃ c more, text = c :: more ∧ isSpace c = false ∧ c ≠ ']'

/-- The text of an array after its opening bracket, and what reading its elements in a row makes of
the value so far. -/
inductive Elements (element : σ → Reader σ) : Bool → σ → List Char → σ → Prop where
  | close {first : Bool} {done : σ} {gap : List Char} :
      Gap gap → Elements element first done (gap ++ [']']) done
  | element {first : Bool} {done next final : σ} {lead body text : List Char} :
      Lead first lead →
      Begins body →
      Reads (element done) body next →
      Elements element false next text final →
      Elements element first done (lead ++ (body ++ text)) final

theorem nextElement_close {gap : List Char} (hgap : Gap gap) (first : Bool) (rest : List Char) :
    nextElement first (gap ++ ']' :: rest) = .ok (false, ']' :: rest) := by
  unfold nextElement
  rw [bind_of_ok (start_gap hgap (by decide) rest), if_pos rfl]
  rfl

theorem nextElement_lead {first : Bool} {lead : List Char} (h : Lead first lead) {c : Char}
    (hspace : isSpace c = false) (hclose : c ≠ ']') (rest : List Char) :
    nextElement first (lead ++ c :: rest) = .ok (true, c :: rest) := by
  unfold nextElement
  cases h with
  | first hgap =>
    rw [bind_of_ok (start_gap hgap hspace rest), if_neg hclose, if_pos rfl]
    rfl
  | @next gap gap' hgap hgap' =>
    rw [List.append_assoc, List.cons_append,
      bind_of_ok (start_gap hgap (by decide) (gap' ++ c :: rest)), if_neg (by decide),
      if_neg (by decide), if_pos rfl, bind_of_ok (advance_cons _ _),
      bind_of_ok (start_gap hgap' hspace rest), if_neg hclose]
    rfl

namespace Elements

variable {element : σ → Reader σ}

/-- After an element there is a comma or the closing bracket, so the value before it has ended. -/
theorem ends {done final : σ} {text : List Char} (h : Elements element false done text final)
    (rest : List Char) : Ends (text ++ rest) := by
  cases h with
  | close hgap =>
    rw [List.append_assoc]
    exact hgap.ends_append (Ends.bracket rest)
  | element hlead _ _ _ =>
    rw [List.append_assoc]
    exact hlead.ends_append _

/-- Each round of the loop takes at least the first character of an element. -/
theorem elementsLoop_eq {first : Bool} {done final : σ} {text : List Char}
    (h : Elements element first done text final) {rounds : Nat} (hrounds : text.length < rounds)
    (rest : List Char) :
    elementsLoop element rounds first done (text ++ rest) = .ok (final, rest) := by
  induction h generalizing rounds with
  | @close first done gap hgap =>
    cases rounds with
    | zero => omega
    | succ rounds =>
      have hclose : closeArray (']' :: rest) = .ok ((), rest) := mark_gap Gap.nil (by decide) rest
      rw [List.append_assoc, elementsLoop, List.singleton_append,
        bind_of_ok (nextElement_close hgap first rest)]
      show (closeArray >>= _) _ = _
      rw [bind_of_ok hclose]
      rfl
  | @element first done next final lead body text hlead hbegins hbody hrest ih =>
    cases rounds with
    | zero => omega
    | succ rounds =>
      obtain ⟨c, more, rfl, hspace, hclose⟩ := hbegins
      have hlength : text.length < rounds := by
        simp only [List.length_append, List.length_cons] at hrounds
        omega
      have hnext := nextElement_lead hlead hspace hclose (more ++ (text ++ rest))
      have hvalue := hbody (text ++ rest) (hrest.ends rest)
      simp only [List.append_assoc, List.cons_append] at hvalue ⊢
      rw [elementsLoop, bind_of_ok hnext, if_pos rfl, bind_of_ok hvalue]
      exact ih hlength

theorem elements_eq {done final : σ} {text : List Char} (h : Elements element true done text final)
    (rest : List Char) : elements element done (text ++ rest) = .ok (final, rest) := by
  apply h.elementsLoop_eq
  rw [List.length_append]
  omega

end Elements

/-! ## Written arrays -/

section

variable {r : Reader α} {write : α → List Char} {items : List α}

/-- The elements of an array are put in front of those before them. -/
theorem furtherElements (h : ∀ a ∈ items, ReadsValue r (write a) a ∧ Begins (write a))
    (done : List α) :
    Elements (fun items => do let item ← r; return item :: items) false done
      (((items.map write).flatMap fun l => ',' :: l) ++ [']']) (items.reverse ++ done) := by
  induction items generalizing done with
  | nil => exact .close Gap.nil
  | cons a items ih =>
    obtain ⟨⟨hread, hbegins⟩, hitems⟩ := List.forall_mem_cons.1 h
    have hlead : Lead false ([] ++ [',']) := .next Gap.nil Gap.nil
    have hbody : Reads (do let item ← r; return item :: done) (write a) (a :: done) :=
      (hread [] Gap.nil).map fun item => item :: done
    have h := Elements.element hlead hbegins hbody (ih hitems (a :: done))
    rw [List.map_cons, List.flatMap_cons, List.reverse_cons]
    simp only [List.append_assoc, List.cons_append, List.nil_append] at h ⊢
    exact h

theorem writtenElements (h : ∀ a ∈ items, ReadsValue r (write a) a ∧ Begins (write a)) :
    Elements (fun items => do let item ← r; return item :: items) true []
      ([','].intercalate (items.map write) ++ [']']) items.reverse := by
  cases items with
  | nil => exact .close Gap.nil
  | cons a items =>
    obtain ⟨⟨hread, hbegins⟩, hitems⟩ := List.forall_mem_cons.1 h
    have hbody : Reads (do let item ← r; return [item]) (write a) [a] :=
      (hread [] Gap.nil).map fun item => [item]
    have hlead : Lead true [] := .first Gap.nil
    have h := Elements.element hlead hbegins hbody (furtherElements hitems [a])
    rw [List.map_cons, intercalate_comma, List.append_assoc, List.reverse_cons]
    exact h

end

/-! ## Written objects -/

theorem Spacing.tight_blank : Spacing.tight.Blank where
  lineBreak _ := Gap.nil
  afterColon := Gap.nil

/-- Members whose names ascend are put after those before them. -/
theorem gathers_members {r : Reader α} {write : α → List Char} {members done : List (String × α)}
    (h : ∀ e ∈ members, ReadsValue r (write e.2) e.2) (hascending : Ascending (done ++ members)) :
    Gathers (fun entries name => do
        colon
        let value ← r
        return insertEntry name value entries)
      done (members.map fun e => (e.1.toList, write e.2)) (done ++ members) := by
  induction members generalizing done with
  | nil =>
    rw [List.append_nil]
    exact .nil
  | cons e members ih =>
    obtain ⟨hread, hmembers⟩ := List.forall_mem_cons.1 h
    have hlast : insertEntry e.1 e.2 done = done ++ [e] := by
      apply insertEntry_eq_append
      intro e' he'
      exact (List.pairwise_append.1 hascending).2.2 e' he' e List.mem_cons_self
    rw [List.append_cons] at hascending ⊢
    refine .cons ?_ (ih hmembers hascending)
    intro gap hgap
    rw [String.ofList_toList, ← hlast]
    exact colon_reads hread hgap fun value => insertEntry e.1 value done

/-! ## Documents without floats -/

mutual

def NoFloats : Json → Prop
  | .float _ => False
  | .array items => NoFloatsItems items
  | .object members => NoFloatsMembers members
  | _ => True

def NoFloatsItems : List Json → Prop
  | [] => True
  | a :: as => NoFloats a ∧ NoFloatsItems as

def NoFloatsMembers : List (String × Json) → Prop
  | [] => True
  | (_, a) :: as => NoFloats a ∧ NoFloatsMembers as

end

mutual

theorem agrees_self : (j : Json) → j.NoFloats → j.agrees j = true
  | .null, _ => rfl
  | .bool b, _ => by simp [agrees]
  | .int n, _ => by simp [agrees]
  | .float _, h => h.elim
  | .string s, _ => by simp [agrees]
  | .array items, h => agreesItems_self items h
  | .object members, h => agreesMembers_self members h

theorem agreesItems_self : (items : List Json) → NoFloatsItems items →
    agreesItems items items = true
  | [], _ => rfl
  | a :: as, h => by
    rw [agreesItems, agrees_self a h.1, agreesItems_self as h.2]
    rfl

theorem agreesMembers_self : (members : List (String × Json)) → NoFloatsMembers members →
    agreesMembers members members = true
  | [], _ => rfl
  | (name, a) :: as, h => by
    rw [agreesMembers, agrees_self a h.1, agreesMembers_self as h.2, beq_self_eq_true]
    rfl

end

/-- What the reader with so many brackets left can read back. -/
structure Readable (depth : Nat) (j : Json) : Prop where
  wellFormed : j.WellFormed
  noFloats : j.NoFloats
  depth_le : j.depth ≤ depth

theorem compactItems_eq_map (items : List Json) : compactItems items = items.map compact := by
  induction items with
  | nil => rfl
  | cons a items ih => rw [compactItems, ih, List.map_cons]

theorem compactMembers_eq_map (members : List (String × Json)) :
    compactMembers members = members.map fun e => (e.1.toList, compact e.2) := by
  induction members with
  | nil => rfl
  | cons e members ih => rw [compactMembers, ih, List.map_cons]

namespace Readable

theorem items {depth : Nat} {items : List Json} (h : Readable (depth + 1) (.array items)) :
    ∀ j ∈ items, Readable depth j := by
  have hwell : WellFormedItems items := h.wellFormed
  have hfloats : NoFloatsItems items := h.noFloats
  have hdepth : depthItems items + 1 ≤ depth + 1 := h.depth_le
  clear h
  induction items with
  | nil => exact List.forall_mem_nil _
  | cons a items ih =>
    simp only [WellFormedItems, NoFloatsItems, depthItems] at hwell hfloats hdepth
    refine List.forall_mem_cons.2 ⟨⟨hwell.1, hfloats.1, by omega⟩, ?_⟩
    exact ih hwell.2 hfloats.2 (by omega)

theorem members {depth : Nat} {members : List (String × Json)}
    (h : Readable (depth + 1) (.object members)) : ∀ e ∈ members, Readable depth e.2 := by
  have hwell : WellFormedMembers members := h.wellFormed.2
  have hfloats : NoFloatsMembers members := h.noFloats
  have hdepth : depthMembers members + 1 ≤ depth + 1 := h.depth_le
  clear h
  induction members with
  | nil => exact List.forall_mem_nil _
  | cons e members ih =>
    simp only [WellFormedMembers, NoFloatsMembers, depthMembers] at hwell hfloats hdepth
    refine List.forall_mem_cons.2 ⟨⟨hwell.1, hfloats.1, by omega⟩, ?_⟩
    exact ih hwell.2 hfloats.2 (by omega)

end Readable

theorem objectText_begins (spacing : Spacing) (depth : Nat)
    (members : List (List Char × List Char)) :
    ∃ more, objectText spacing depth members = '{' :: more := by
  unfold objectText
  split
  · exact ⟨_, rfl⟩
  · exact ⟨_, rfl⟩

theorem begins_compact {j : Json} (h : j.NoFloats) : Begins (compact j) := by
  cases j with
  | null => exact ⟨'n', _, rfl, rfl, by decide⟩
  | bool b =>
    cases b with
    | true => exact ⟨'t', _, rfl, rfl, by decide⟩
    | false => exact ⟨'f', _, rfl, rfl, by decide⟩
  | int n =>
    obtain ⟨c, more, htext, hstart, hspace⟩ := intText_start n
    refine ⟨c, more, htext, hspace, ?_⟩
    rintro rfl
    cases hstart
  | float x => exact h.elim
  | string s => exact ⟨'"', _, rfl, rfl, by decide⟩
  | array items => exact ⟨'[', _, rfl, rfl, by decide⟩
  | object members =>
    obtain ⟨more, htext⟩ := objectText_begins .tight 0 (compactMembers members)
    exact ⟨'{', more, htext, rfl, by decide⟩

/-! ## Reading documents -/

/-- Without a bracket at its start, a document is read with any number of brackets left. -/
theorem document_scalar (depth : Nat) {gap : List Char} (hgap : Gap gap) {c : Char}
    (hspace : isSpace c = false) (harray : c ≠ '[') (hobject : c ≠ '{') (rest : List Char) :
    document depth (gap ++ c :: rest) = scalar c (c :: rest) := by
  cases depth with
  | zero =>
    unfold document
    rw [bind_of_ok (start_gap hgap hspace rest)]
  | succ depth =>
    unfold document
    rw [bind_of_ok (start_gap hgap hspace rest), if_neg harray, if_neg hobject]

theorem scalar_null (rest : List Char) :
    scalar 'n' ("null".toList ++ rest) = .ok (.null, rest) := by
  unfold scalar
  rw [if_pos rfl, bind_of_ok (word_append _ rest)]
  rfl

theorem document_null (depth : Nat) : ReadsValue (document depth) (compact .null) .null := by
  intro gap hgap rest _
  rw [List.append_assoc]
  exact (document_scalar depth hgap (by decide) (by decide) (by decide) _).trans (scalar_null rest)

theorem document_bool (depth : Nat) (b : Bool) :
    ReadsValue (document depth) (compact (.bool b)) (.bool b) := by
  intro gap hgap rest _
  rw [List.append_assoc]
  cases b with
  | true =>
    have hword : word "true".toList (boolText true ++ rest) = .ok ((), rest) := word_append _ rest
    refine (document_scalar depth hgap (c := 't') (by decide) (by decide) (by decide) _).trans ?_
    unfold scalar
    rw [if_neg (by decide), if_pos rfl]
    exact bind_of_ok hword
  | false =>
    have hword : word "false".toList (boolText false ++ rest) = .ok ((), rest) := word_append _ rest
    refine (document_scalar depth hgap (c := 'f') (by decide) (by decide) (by decide) _).trans ?_
    unfold scalar
    rw [if_neg (by decide), if_neg (by decide), if_pos rfl]
    exact bind_of_ok hword

theorem document_int (depth : Nat) {n : Int} (h : IsWord n) :
    ReadsValue (document depth) (compact (.int n)) (.int n) := by
  intro gap hgap rest hrest
  obtain ⟨c, more, htext, hstart, hspace⟩ := intText_start n
  have hread := number_reads h rest hrest
  have hne : ∀ d, isNumberStart d = false → c ≠ d := by
    rintro d hd rfl
    rw [hd] at hstart
    cases hstart
  show document depth (gap ++ intText n ++ rest) = _
  rw [htext, List.cons_append] at hread
  rw [htext, List.append_assoc, List.cons_append,
    document_scalar depth hgap hspace (hne _ rfl) (hne _ rfl)]
  unfold scalar
  rw [if_neg (hne _ rfl), if_neg (hne _ rfl), if_neg (hne _ rfl), if_neg (hne _ rfl), if_pos hstart,
    bind_of_ok hread]
  rfl

theorem document_string (depth : Nat) (s : String) :
    ReadsValue (document depth) (compact (.string s)) (.string s) := by
  intro gap hgap rest _
  show document depth (gap ++ quoted s.toList ++ rest) = _
  rw [append_quoted, document_scalar depth hgap (by decide) (by decide) (by decide)]
  unfold scalar
  rw [if_neg (by decide), if_neg (by decide), if_neg (by decide), if_pos rfl,
    bind_of_ok (advance_cons _ _), bind_of_ok (stringRest_escaped s.toList rest),
    String.ofList_toList]
  rfl

theorem document_array {depth : Nat} {items : List Json} (h : Readable (depth + 1) (.array items))
    (hread : ∀ a ∈ items, ReadsValue (document depth) (compact a) a) :
    ReadsValue (document (depth + 1)) (compact (.array items)) (.array items) := by
  intro gap hgap rest _
  have helements : ∀ a ∈ items, ReadsValue (document depth) (compact a) a ∧ Begins (compact a) :=
    fun a ha => ⟨hread a ha, begins_compact (h.items a ha).noFloats⟩
  have htext : gap ++ compact (.array items) ++ rest =
      gap ++ '[' :: ([','].intercalate (items.map compact) ++ [']'] ++ rest) := by
    simp [compact, compactItems_eq_map]
  rw [htext]
  unfold document
  rw [bind_of_ok (start_gap hgap (by decide) _), if_pos rfl, bind_of_ok (advance_cons _ _),
    bind_of_ok ((writtenElements helements).elements_eq rest), List.reverse_reverse]
  rfl

theorem document_object {depth : Nat} {members : List (String × Json)}
    (h : Readable (depth + 1) (.object members))
    (hread : ∀ e ∈ members, ReadsValue (document depth) (compact e.2) e.2) :
    ReadsValue (document (depth + 1)) (compact (.object members)) (.object members) := by
  intro gap hgap rest _
  have hascending : Ascending ([] ++ members) := h.wellFormed.1
  obtain ⟨text, htext, hmembers⟩ :=
    (gathers_members hread hascending).objectText_eq Spacing.tight_blank 0
  show document (depth + 1) (gap ++ objectText .tight 0 (compactMembers members) ++ rest) = _
  rw [compactMembers_eq_map, htext, List.append_assoc, List.cons_append]
  unfold document
  rw [bind_of_ok (start_gap hgap (by decide) _), if_neg (by decide), if_pos rfl,
    bind_of_ok (advance_cons _ _), bind_of_ok (hmembers.members_eq rest)]
  rfl

/-- An array or an object uses up one bracket; its elements are read with those that are left. -/
theorem document_reads {depth : Nat} {j : Json} (h : Readable depth j) :
    ReadsValue (document depth) (compact j) j := by
  induction depth using Nat.strongRecOn generalizing j with
  | ind depth ih =>
    cases j with
    | null => exact document_null depth
    | bool b => exact document_bool depth b
    | int n => exact document_int depth h.wellFormed
    | float x => exact h.noFloats.elim
    | string s => exact document_string depth s
    | array items =>
      cases depth with
      | zero => exact absurd h.depth_le (Nat.not_succ_le_zero _)
      | succ left =>
        exact document_array h fun a ha => ih left (Nat.lt_succ_self left) (h.items a ha)
    | object members =>
      cases depth with
      | zero => exact absurd h.depth_le (Nat.not_succ_le_zero _)
      | succ left =>
        exact document_object h fun e he => ih left (Nat.lt_succ_self left) (h.members e he)

end Json
end CheckedSelect
