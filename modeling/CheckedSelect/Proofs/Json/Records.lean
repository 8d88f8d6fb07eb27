import CheckedSelect.Proofs.Json.Skip

/-!
# CheckedSelect.Proofs.Json.Records

Records among members that nobody asked for.

* `SpelledMembers`, `SpelledObject`: the texts of objects with these names and values, the names
  spelled in any way.
* `Given`: the one member under a name, or none.
* `record_reads_among`: a record is read from its own members, whatever well-formed values stand
  under other names, before, between and after them.
-/

namespace CheckedSelect
namespace Json

variable {α β τ : Type}

/-! ## Texts -/

/-- The text after the opening brace, or after a member; each value is given by its text. -/
inductive SpelledMembers : Bool → List (String × List Char) → List Char → Prop where
  | close {first : Bool} {gap : List Char} : Gap gap → SpelledMembers first [] (gap ++ ['}'])
  | member {first : Bool} {name : String} {rest : List (String × List Char)}
      {lead spelled before after value more : List Char} :
      Lead first lead → Spells name.toList spelled → Gap before → Gap after →
      SpelledMembers false rest more →
      SpelledMembers first ((name, value) :: rest)
        (lead ++ '"' :: (spelled ++ '"' :: (before ++ ':' :: (after ++ (value ++ more)))))

def SpelledObject (members : List (String × List Char)) (text : List Char) : Prop :=
  ∃ body, text = '{' :: body ∧ SpelledMembers true members body

/-- A string, spelled in any way. -/
def SpelledString (s : String) (text : List Char) : Prop :=
  ∃ spelled, text = '"' :: (spelled ++ ['"']) ∧ Spells s.toList spelled

/-- A name that needs no value, as a string or over a null. -/
inductive NameText (name : String) : List Char → Prop where
  | string {text : List Char} : SpelledString name text → NameText name text
  | overNull {gap spelled before after close : List Char} :
      Gap gap → Spells name.toList spelled → Gap before → Gap after → Gap close →
      NameText name ('{' :: (gap ++ '"' :: (spelled ++ '"' ::
        (before ++ ':' :: (after ++ ("null".toList ++ (close ++ ['}'])))))))

/-- The values under a name, of which there is at most one. -/
def Given (write : α → List Char → Prop) (name : String) (members : List (String × List Char)) :
    Option α → Prop
  | none => members.filter (fun e => e.1 = name) = []
  | some a => ∃ value, members.filter (fun e => e.1 = name) = [(name, value)] ∧ write a value

theorem Given.of_here {write : α → List Char → Prop} {name : String} {value : List Char}
    {rest : List (String × List Char)} {a? : Option α}
    (h : Given write name ((name, value) :: rest) a?) :
    ∃ a, a? = some a ∧ write a value ∧ Given write name rest none := by
  have hhere : ((name, value) :: rest).filter (fun e => e.1 = name) =
      (name, value) :: rest.filter fun e => e.1 = name :=
    List.filter_cons_of_pos (decide_eq_true rfl)
  cases a? with
  | none => cases hhere.symm.trans h
  | some a =>
    obtain ⟨value', heq, hwrite⟩ := h
    obtain ⟨hvalue, hrest⟩ := List.cons.inj (hhere.symm.trans heq)
    cases hvalue
    exact ⟨a, rfl, hwrite, hrest⟩

theorem Given.of_elsewhere {write : α → List Char → Prop} {name other : String} {value : List Char}
    {rest : List (String × List Char)} {a? : Option α} (hother : other ≠ name)
    (h : Given write name ((other, value) :: rest) a?) : Given write name rest a? := by
  have hskip : ((other, value) :: rest).filter (fun e => e.1 = name) =
      rest.filter fun e => e.1 = name :=
    List.filter_cons_of_neg (by simpa using hother)
  cases a? with
  | none => exact hskip.symm.trans h
  | some a =>
    obtain ⟨value', heq, hwrite⟩ := h
    exact ⟨value', hskip.symm.trans heq, hwrite⟩

/-! ## Reading them -/

theorem nameOf_reads_text {known : List String} {ofName? : String → Option τ} {name : String} {t : τ}
    {text : List Char} (h : ofName? name = some t) (ht : NameText name text) :
    ReadsValue (nameOf known ofName?) text t := by
  have hname : ∀ {spelled : List Char}, Spells name.toList spelled → ∀ rest,
      choiceName known ofName? (spelled ++ '"' :: rest) = .ok (t, rest) := by
    intro spelled hspelled rest
    unfold choiceName
    rw [bind_of_ok (stringRest_spells hspelled rest), h]
    rfl
  intro gap' hgap' rest _
  unfold nameOf choice
  cases ht with
  | string hstring =>
    obtain ⟨spelled, rfl, hspelled⟩ := hstring
    simp only [List.append_assoc, List.cons_append, List.nil_append]
    rw [bind_of_ok (start_gap hgap' (by decide) _), if_pos rfl, bind_of_ok (advance_cons _ _),
      bind_of_ok (hname hspelled rest)]
    rfl
  | @overNull gap spelled before after close hgap hspelled hbefore hafter hclose =>
    simp only [List.append_assoc, List.cons_append, List.nil_append]
    have hquote : ∀ rest, mark '"' (gap ++ '"' :: rest) = .ok ((), rest) := mark_gap hgap (by decide)
    have hcolon : ∀ rest, colon (before ++ ':' :: rest) = .ok ((), rest) :=
      mark_gap hbefore (by decide)
    have hnull : unit (after ++ ("null".toList ++ (close ++ '}' :: rest))) =
        .ok ((), close ++ '}' :: rest) := by
      have hstart : start (after ++ ("null".toList ++ (close ++ '}' :: rest))) =
          .ok ('n', "null".toList ++ (close ++ '}' :: rest)) :=
        start_gap hafter (by decide) _
      unfold unit
      rw [bind_of_ok hstart, if_pos rfl, word_append]
    have hvalue : (do unit; return t : Reader τ)
        (after ++ ("null".toList ++ (close ++ '}' :: rest))) = .ok (t, close ++ '}' :: rest) := by
      rw [bind_of_ok hnull]
      rfl
    have hmark : mark '}' (close ++ '}' :: rest) = .ok ((), rest) := mark_gap hclose (by decide) rest
    rw [bind_of_ok (start_gap hgap' (by decide) _), if_neg (by decide), if_pos rfl,
      bind_of_ok (advance_cons _ _), bind_of_ok (hquote _), bind_of_ok (hname hspelled _),
      bind_of_ok (hcolon _), bind_of_ok hvalue, bind_of_ok hmark]
    rfl

section

variable {first : RecordField α} {second : RecordField β} {write : α → List Char → Prop}
  {write' : β → List Char → Prop}

/-- A value under another name is stepped over, and what was read so far is kept. -/
theorem recordMember_unknown {name : String} (h : name ≠ first.name) (h' : name ≠ second.name)
    {value before after : List Char} (hvalue : ValueText value) (hbefore : Gap before)
    (hafter : Gap after) (done : Option α × Option β) :
    Reads (recordMember first second done name) (before ++ ':' :: (after ++ value)) done := by
  unfold recordMember
  rw [if_neg h, if_neg h']
  exact member_reads (skipValue_reads hvalue) hbefore hafter fun _ => done

theorem recordMember_first {value before after : List Char} {a : α}
    (hvalue : ReadsValue first.value value a) (hbefore : Gap before) (hafter : Gap after)
    (b? : Option β) :
    Reads (recordMember first second (none, b?) first.name) (before ++ ':' :: (after ++ value))
      (some a, b?) := by
  unfold recordMember
  rw [if_pos rfl]
  exact member_reads hvalue hbefore hafter fun a => (some a, b?)

theorem recordMember_second (hnames : first.name ≠ second.name) {value before after : List Char}
    {b : β} (hvalue : ReadsValue second.value value b) (hbefore : Gap before) (hafter : Gap after)
    (a? : Option α) :
    Reads (recordMember first second (a?, none) second.name) (before ++ ':' :: (after ++ value))
      (a?, some b) := by
  unfold recordMember
  rw [if_neg hnames.symm, if_pos rfl]
  exact member_reads hvalue hbefore hafter fun b => (a?, some b)

/-- What the members read so far and those to come give of each field together. -/
theorem members_among (hnames : first.name ≠ second.name)
    (hfirst : ∀ a value, write a value → ReadsValue first.value value a)
    (hsecond : ∀ b value, write' b value → ReadsValue second.value value b) {lead : Bool}
    {members : List (String × List Char)} {text : List Char} (ht : SpelledMembers lead members text)
    (hothers : ∀ e ∈ members, e.1 ≠ first.name → e.1 ≠ second.name → ValueText e.2)
    {found a? : Option α} {found' b? : Option β} (ha : Given write first.name members a?)
    (hb : Given write' second.name members b?) (honce : found = none ∨ a? = none)
    (honce' : found' = none ∨ b? = none) :
    Members stringRest (recordMember first second) lead (found, found') text
      (found.or a?, found'.or b?) := by
  induction ht generalizing found found' a? b? with
  | close hgap =>
    have hnone : a? = none := by
      cases a? with
      | none => rfl
      | some a => obtain ⟨value, heq, -⟩ := ha; cases heq
    have hnone' : b? = none := by
      cases b? with
      | none => rfl
      | some b => obtain ⟨value, heq, -⟩ := hb; cases heq
    rw [hnone, hnone', Option.or_none, Option.or_none]
    exact .close hgap
  | @member lead' name rest lead spelled before after value more hlead hspelled hbefore hafter _ ih =>
    have hrest : ∀ e ∈ rest, e.1 ≠ first.name → e.1 ≠ second.name → ValueText e.2 :=
      fun e he => hothers e (List.mem_cons_of_mem _ he)
    by_cases hname : name = first.name
    · subst hname
      obtain ⟨a, rfl, hwrite, ha'⟩ := ha.of_here
      obtain rfl : found = none := honce.resolve_right (Option.some_ne_none a)
      have hbody : Reads (recordMember first second (none, found') first.name)
          (before ++ ':' :: (after ++ value)) (some a, found') :=
        recordMember_first (hfirst a value hwrite) hbefore hafter found'
      exact .written hlead (stringRest_spells hspelled) hbody
        (ih hrest ha' (hb.of_elsewhere hnames) (.inr rfl) honce')
    · by_cases hname' : name = second.name
      · subst hname'
        obtain ⟨b, rfl, hwrite, hb'⟩ := hb.of_here
        obtain rfl : found' = none := honce'.resolve_right (Option.some_ne_none b)
        have hbody := recordMember_second hnames (hsecond b value hwrite) hbefore hafter found
        exact .written hlead (stringRest_spells hspelled) hbody
          (ih hrest (ha.of_elsewhere hname) hb' honce (.inr rfl))
      · have hvalue : ValueText value := hothers (name, value) List.mem_cons_self hname hname'
        exact .written hlead (stringRest_spells hspelled)
          (recordMember_unknown hname hname' hvalue hbefore hafter (found, found'))
          (ih hrest (ha.of_elsewhere hname) (hb.of_elsewhere hname') honce honce')

/-- The members under the two names give the fields; those under other names give nothing. -/
theorem record_reads_among (title : String) (hnames : first.name ≠ second.name)
    (hfirst : ∀ a value, write a value → ReadsValue first.value value a)
    (hsecond : ∀ b value, write' b value → ReadsValue second.value value b)
    {members : List (String × List Char)} {text : List Char} (ht : SpelledObject members text)
    (hothers : ∀ e ∈ members, e.1 ≠ first.name → e.1 ≠ second.name → ValueText e.2)
    {a? : Option α} {b? : Option β} {a : α} {b : β} (ha : Given write first.name members a?)
    (hb : Given write' second.name members b?) (ha' : a?.or first.default? = some a)
    (hb' : b?.or second.default? = some b) :
    ReadsValue (record title first second) text (a, b) := by
  obtain ⟨body, rfl, hbody⟩ := ht
  have hmembers := members_among hnames hfirst hsecond hbody hothers ha hb (.inl rfl) (.inl rfl)
  exact record_reads_or hmembers ha' hb'

end

end Json
end CheckedSelect
