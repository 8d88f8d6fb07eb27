import CheckedSelect.Proofs.Json.Reading
import Mathlib.Data.List.TakeWhile

/-!
# CheckedSelect.Proofs.Json.Layout

The texts of an object, with any blanks between the tokens, said without any reader.

* `MembersText`, `ObjectText`: the texts of a list of members, of which each value has texts of its
  own. Names may be repeated.
* `Collects`: what reading the members of a list in a row makes of the value so far, whatever their
  texts. `Collects.members`: the loop over members follows it through every text of the list.
* `mapping_objectText`: an object is read as the map into which its members are written in order.
-/

namespace CheckedSelect
namespace Json

variable {α β σ : Type}

theorem Gap.single {c : Char} (h : isSpace c = true) : Gap [c] :=
  List.forall_mem_singleton.2 h

/-! ## Texts -/

/-- The text after the opening brace, or after a member. -/
inductive MembersText (value : α → List Char → Prop) :
    Bool → List (String × α) → List Char → Prop where
  | close {first : Bool} {gap : List Char} : Gap gap → MembersText value first [] (gap ++ ['}'])
  | member {first : Bool} {name : String} {a : α} {rest : List (String × α)}
      {lead before after text more : List Char} :
      Lead first lead → Gap before → Gap after → value a text →
      MembersText value false rest more →
      MembersText value first ((name, a) :: rest)
        (lead ++ (quoted name.toList ++ (before ++ ':' :: (after ++ (text ++ more)))))

def ObjectText (value : α → List Char → Prop) (members : List (String × α)) (text : List Char) :
    Prop :=
  ∃ body, text = '{' :: body ∧ MembersText value true members body

/-! ## Reading them -/

/-- Each member in turn, from its colon on, with blanks where they may stand. -/
inductive Collects (member : σ → String → Reader σ) (value : α → List Char → Prop) :
    σ → List (String × α) → σ → Prop where
  | nil {done : σ} : Collects member value done [] done
  | cons {done next final : σ} {name : String} {a : α} {rest : List (String × α)} :
      (∀ before after text, Gap before → Gap after → value a text →
        Reads (member done name) (before ++ ':' :: (after ++ text)) next) →
      Collects member value next rest final →
      Collects member value done ((name, a) :: rest) final

theorem stringRest_quoted (name : String) (rest : List Char) :
    stringRest (name.toList.flatMap escapeChar ++ '"' :: rest) = .ok (name, rest) := by
  rw [stringRest_escaped, String.ofList_toList]

theorem Collects.members {member : σ → String → Reader σ} {value : α → List Char → Prop}
    {first : Bool} {done final : σ} {entries : List (String × α)} {text : List Char}
    (h : Collects member value done entries final) (ht : MembersText value first entries text) :
    Members stringRest member first done text final := by
  -- By the text, since it is the text that the loop consumes; what is read so far is any value.
  induction ht generalizing done with
  | close hgap =>
    cases h
    exact .close hgap
  | @member first name a rest lead before after text more hlead hbefore hafter hvalue _ ih =>
    cases h with
    | cons hmember hrest =>
      have hbody := hmember before after text hbefore hafter hvalue
      rw [← List.append_assoc, append_quoted]
      exact .written hlead (stringRest_quoted name) hbody (ih hrest)

/-- The members of a map are written one after the other. -/
theorem collects_entries {r : Reader β} {value : α → List Char → Prop} {f : α → β}
    (h : ∀ a text, value a text → ReadsValue r text (f a)) (m : NameMap β)
    (members : List (String × α)) :
    Collects (fun entries name => do
        colon
        let b ← r
        return entries.insert name b)
      value m members (m.insertAll (members.map fun e => (e.1, f e.2))) := by
  induction members generalizing m with
  | nil => exact .nil
  | cons e rest ih =>
    refine .cons ?_ (ih (m.insert e.1 (f e.2)))
    intro before after text hbefore hafter hvalue
    exact member_reads (h e.2 text hvalue) hbefore hafter fun b => m.insert e.1 b

theorem mapping_objectText {r : Reader β} {value : α → List Char → Prop} {f : α → β}
    (h : ∀ a text, value a text → ReadsValue r text (f a)) {members : List (String × α)}
    {text : List Char} (ht : ObjectText value members text) :
    ReadsValue (mapping r) text (NameMap.ofList (members.map fun e => (e.1, f e.2))) := by
  obtain ⟨body, rfl, hbody⟩ := ht
  exact mapping_reads ((collects_entries h NameMap.empty members).members hbody)

/-- Blanks may stand before and after a value that is a whole text. -/
theorem ReadsValue.parse_between {r : Reader α} {text before after : List Char} {a : α}
    (h : ReadsValue r text a) (hbefore : Gap before) (hafter : Gap after) :
    r.parse (String.ofList (before ++ text ++ after)) = .ok a := by
  have hread := h before hbefore after (by simpa using hafter.ends_append Ends.nil)
  unfold Reader.parse
  rw [String.toList_ofList, hread]
  show (if (after.dropWhile isSpace).isEmpty then _ else _) = _
  rw [List.dropWhile_eq_nil_iff.2 hafter]
  rfl

end Json
end CheckedSelect
