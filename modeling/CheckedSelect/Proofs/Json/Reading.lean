import CheckedSelect.Json.Expect
import CheckedSelect.Json.Printer
import CheckedSelect.Proofs.Json.Quoted
import CheckedSelect.Proofs.NameMap

/-!
# CheckedSelect.Proofs.Json.Reading

What readers make of the texts that they are meant for, with any blanks between the tokens.

* `Gap`, `Ends`: the blanks between two tokens, and what may stand after a value.
* `Reads`, `ReadsValue`: a reader takes exactly this text and gives this value.
* `Members`: the texts of objects up to the closing brace, with what reading their members in a
  row gives. `members_of_members`: the loop over members follows it.
* `objectText_members`: a written object is such a text.
-/

namespace CheckedSelect
namespace Json

variable {α β κ σ : Type}

/-! ## Blanks and ends -/

/-- Nothing but characters that may stand between tokens. -/
def Gap (gap : List Char) : Prop := ∀ c ∈ gap, isSpace c = true

/-- What may follow a value. -/
def Ends (rest : List Char) : Prop :=
  ∀ c ∈ rest.head?, isSpace c = true ∨ c = ',' ∨ c = '}' ∨ c = ']'

theorem Gap.nil : Gap [] := by
  intro c hc
  cases hc

theorem Ends.nil : Ends [] := by
  intro c hc
  cases hc

/-- A value ends before a comma and before a closing brace or bracket. -/
theorem Ends.mark {c : Char} (h : c = ',' ∨ c = '}' ∨ c = ']') (rest : List Char) :
    Ends (c :: rest) := by
  intro d hd
  cases hd
  exact .inr h

theorem Ends.comma (rest : List Char) : Ends (',' :: rest) := Ends.mark (.inl rfl) rest

theorem Ends.brace (rest : List Char) : Ends ('}' :: rest) := Ends.mark (.inr (.inl rfl)) rest

theorem Ends.bracket (rest : List Char) : Ends (']' :: rest) := Ends.mark (.inr (.inr rfl)) rest

theorem Gap.ends_append {gap rest : List Char} (hgap : Gap gap) (hrest : Ends rest) :
    Ends (gap ++ rest) := by
  cases gap with
  | nil => exact hrest
  | cons d more =>
    intro c hc
    cases hc
    exact .inl (hgap d List.mem_cons_self)

theorem Gap.dropWhile_append {gap : List Char} (hgap : Gap gap) {c : Char} (hc : isSpace c = false)
    (rest : List Char) : (gap ++ c :: rest).dropWhile isSpace = c :: rest := by
  have hnot : ¬ isSpace c = true := by rw [hc]; exact Bool.false_ne_true
  rw [List.dropWhile_append_of_pos hgap, List.dropWhile_cons_of_neg hnot]

/-! ## Pieces -/

/-- The reader takes this text, wherever it ends, and gives this value. -/
def Reads (r : Reader α) (text : List Char) (a : α) : Prop :=
  ∀ rest, Ends rest → r (text ++ rest) = .ok (a, rest)

/-- The same, with any blanks before the text. -/
def ReadsValue (r : Reader α) (text : List Char) (a : α) : Prop :=
  ∀ gap, Gap gap → Reads r (gap ++ text) a

theorem bind_of_ok {r : Reader α} {f : α → Reader β} {text rest : List Char} {a : α}
    (h : r text = .ok (a, rest)) : (r >>= f) text = f a rest := by
  show (r text >>= fun p => f p.1 p.2) = _
  rw [h]
  rfl

theorem map_of_ok {r : Reader α} {text rest : List Char} {a : α} (h : r text = .ok (a, rest))
    (f : α → β) : (f <$> r) text = .ok (f a, rest) := by
  show ((fun p => (f p.1, p.2)) <$> r text) = _
  rw [h]
  rfl

theorem Reads.map {r : Reader α} {text : List Char} {a : α} (h : Reads r text a) (f : α → β) :
    Reads (f <$> r) text (f a) :=
  fun rest hrest => map_of_ok (h rest hrest) f

theorem ReadsValue.map {r : Reader α} {text : List Char} {a : α} (h : ReadsValue r text a)
    (f : α → β) : ReadsValue (f <$> r) text (f a) :=
  fun gap hgap => (h gap hgap).map f

theorem start_gap {gap : List Char} (hgap : Gap gap) {c : Char} (hc : isSpace c = false)
    (rest : List Char) : start (gap ++ c :: rest) = .ok (c, c :: rest) := by
  unfold start
  rw [hgap.dropWhile_append hc]

theorem advance_cons (c : Char) (rest : List Char) : advance (c :: rest) = .ok ((), rest) := rfl

theorem mark_gap {gap : List Char} (hgap : Gap gap) {c : Char} (hc : isSpace c = false)
    (rest : List Char) : mark c (gap ++ c :: rest) = .ok ((), rest) := by
  unfold mark
  rw [bind_of_ok (start_gap hgap hc rest), if_pos rfl, advance_cons]

theorem word_append (cs rest : List Char) : word cs (cs ++ rest) = .ok ((), rest) := by
  induction cs with
  | nil => rfl
  | cons c cs ih =>
    show (if c = c then word cs (cs ++ rest) else _) = _
    rw [if_pos rfl, ih]

theorem stringRest_escaped (text rest : List Char) :
    stringRest (text.flatMap escapeChar ++ '"' :: rest) = .ok (String.ofList text, rest) := by
  unfold stringRest
  rw [stringBody_escaped]

theorem boolean_reads (b : Bool) : ReadsValue boolean (boolText b) b := by
  intro gap hgap rest _
  rw [List.append_assoc]
  cases b with
  | true =>
    have hstart : start (gap ++ (boolText true ++ rest)) = .ok ('t', boolText true ++ rest) :=
      start_gap hgap (by decide) _
    have hword : word "true".toList (boolText true ++ rest) = .ok ((), rest) := word_append _ rest
    unfold boolean
    rw [bind_of_ok hstart, if_pos rfl, bind_of_ok hword]
    rfl
  | false =>
    have hstart : start (gap ++ (boolText false ++ rest)) = .ok ('f', boolText false ++ rest) :=
      start_gap hgap (by decide) _
    have hword : word "false".toList (boolText false ++ rest) = .ok ((), rest) :=
      word_append _ rest
    unfold boolean
    rw [bind_of_ok hstart, if_neg (by decide), if_pos rfl, bind_of_ok hword]
    rfl

theorem append_quoted (gap text rest : List Char) :
    gap ++ quoted text ++ rest = gap ++ '"' :: (text.flatMap escapeChar ++ '"' :: rest) := by
  simp [quoted]

theorem textFor_reads (expected : String) (text : List Char) :
    ReadsValue (textFor expected) (quoted text) (String.ofList text) := by
  intro gap hgap rest _
  have hstart := start_gap hgap (c := '"') (by decide) (text.flatMap escapeChar ++ '"' :: rest)
  rw [append_quoted]
  unfold textFor
  rw [bind_of_ok hstart, if_pos rfl, bind_of_ok (advance_cons _ _), stringRest_escaped]

/-! ## Choices -/

section

variable {τ : Type} {known : List String} {ofName? : String → Option τ} {alone : τ → Reader α}
  {withValue : τ → Reader α} {name : String} {t : τ} {a : α}

theorem choiceName_escaped (known : List String) (h : ofName? name = some t) (rest : List Char) :
    choiceName known ofName? (name.toList.flatMap escapeChar ++ '"' :: rest) = .ok (t, rest) := by
  unfold choiceName
  rw [bind_of_ok (stringRest_escaped name.toList rest), String.ofList_toList, h]
  rfl

/-- A name that needs no value. -/
theorem choice_alone (h : ofName? name = some t) (ha : alone t = pure a) :
    ReadsValue (choice known ofName? alone withValue) (quoted name.toList) a := by
  intro gap hgap rest _
  have hstart := start_gap hgap (c := '"') (by decide) (name.toList.flatMap escapeChar ++ '"' :: rest)
  rw [append_quoted]
  unfold choice
  rw [bind_of_ok hstart, if_pos rfl, bind_of_ok (advance_cons _ _),
    bind_of_ok (choiceName_escaped known h rest), ha]
  rfl

/-- A value under its name, as it is written without blanks. -/
theorem choice_single {text : List Char} (h : ofName? name = some t)
    (hvalue : ReadsValue (withValue t) text a) :
    ReadsValue (choice known ofName? alone withValue)
      (objectText .tight 0 [(name.toList, text)]) a := by
  intro gap hgap rest _
  have htext : gap ++ objectText .tight 0 [(name.toList, text)] ++ rest =
      gap ++ '{' :: '"' :: (name.toList.flatMap escapeChar ++
        '"' :: ':' :: (text ++ '}' :: rest)) := by
    simp [objectText, memberText, quoted, Spacing.tight]
  have hquote : mark '"' ('"' :: (name.toList.flatMap escapeChar ++
      '"' :: ':' :: (text ++ '}' :: rest))) = .ok ((), _) :=
    mark_gap Gap.nil (by decide) _
  have hcolon : colon (':' :: (text ++ '}' :: rest)) = .ok ((), text ++ '}' :: rest) :=
    mark_gap Gap.nil (by decide) _
  have hread : withValue t (text ++ '}' :: rest) = .ok (a, '}' :: rest) :=
    hvalue [] Gap.nil _ (Ends.brace rest)
  have hclose : mark '}' ('}' :: rest) = .ok ((), rest) := mark_gap Gap.nil (by decide) rest
  rw [htext]
  unfold choice
  rw [bind_of_ok (start_gap hgap (by decide) _), if_neg (by decide), if_pos rfl,
    bind_of_ok (advance_cons _ _), bind_of_ok hquote, bind_of_ok (choiceName_escaped known h _),
    bind_of_ok hcolon, bind_of_ok hread, bind_of_ok hclose]
  rfl

theorem nameOf_reads (h : ofName? name = some t) :
    ReadsValue (nameOf known ofName?) (quoted name.toList) t :=
  choice_alone h rfl

end

/-! ## Objects -/

/-- What stands before the quote of a name: blanks, and a comma except before the first name. -/
inductive Lead : Bool → List Char → Prop where
  | first {gap : List Char} : Gap gap → Lead true gap
  | next {gap gap' : List Char} : Gap gap → Gap gap' → Lead false (gap ++ ',' :: gap')

theorem Lead.ends_append {lead : List Char} (h : Lead false lead) (rest : List Char) :
    Ends (lead ++ rest) := by
  cases h with
  | next hgap _ =>
    rw [List.append_assoc]
    exact hgap.ends_append (Ends.comma _)

/-- The text of an object after its opening brace, and what reading its members in a row makes of
the value so far. -/
inductive Members (name : Reader κ) (member : σ → κ → Reader σ) : Bool → σ → List Char → σ → Prop where
  | close {first : Bool} {done : σ} {gap : List Char} :
      Gap gap → Members name member first done (gap ++ ['}']) done
  | member {first : Bool} {done next final : σ} {n : κ} {lead nameText body text : List Char} :
      Lead first lead →
      (∀ rest, name (nameText ++ rest) = .ok (n, rest)) →
      Reads (member done n) body next →
      Members name member false next text final →
      Members name member first done (lead ++ '"' :: (nameText ++ (body ++ text))) final

theorem nextMember_close {gap : List Char} (hgap : Gap gap) (first : Bool) (rest : List Char) :
    nextMember first (gap ++ '}' :: rest) = .ok (false, rest) := by
  unfold nextMember
  rw [bind_of_ok (start_gap hgap (by decide) rest), if_pos rfl, bind_of_ok (advance_cons _ _)]
  rfl

theorem nextMember_lead {first : Bool} {lead : List Char} (h : Lead first lead) (rest : List Char) :
    nextMember first (lead ++ '"' :: rest) = .ok (true, rest) := by
  unfold nextMember
  cases h with
  | first hgap =>
    have hmark : mark '"' ('"' :: rest) = .ok ((), rest) := mark_gap Gap.nil (by decide) rest
    rw [bind_of_ok (start_gap hgap (by decide) rest), if_neg (by decide), if_pos rfl,
      bind_of_ok hmark]
    rfl
  | @next gap gap' hgap hgap' =>
    have hmark : mark '"' (gap' ++ '"' :: rest) = .ok ((), rest) := mark_gap hgap' (by decide) rest
    rw [List.append_assoc, List.cons_append,
      bind_of_ok (start_gap hgap (by decide) (gap' ++ '"' :: rest)), if_neg (by decide),
      if_neg (by decide), if_pos rfl, bind_of_ok (advance_cons _ _), bind_of_ok hmark]
    rfl

namespace Members

variable {name : Reader κ} {member : σ → κ → Reader σ}

/-- After a member there is a comma or the closing brace, so the value before it has ended. -/
theorem ends {done final : σ} {text : List Char} (h : Members name member false done text final)
    (rest : List Char) : Ends (text ++ rest) := by
  cases h with
  | close hgap =>
    rw [List.append_assoc]
    exact hgap.ends_append (Ends.brace rest)
  | member hlead _ _ _ =>
    rw [List.append_assoc]
    exact hlead.ends_append _

/-- Each round of the loop takes at least the quote of a name. -/
theorem membersLoop_eq {first : Bool} {done final : σ} {text : List Char}
    (h : Members name member first done text final) {rounds : Nat} (hrounds : text.length < rounds)
    (rest : List Char) :
    membersLoop name member rounds first done (text ++ rest) = .ok (final, rest) := by
  induction h generalizing rounds with
  | @close first done gap hgap =>
    cases rounds with
    | zero => omega
    | succ rounds =>
      rw [List.append_assoc, membersLoop, List.singleton_append,
        bind_of_ok (nextMember_close hgap first rest)]
      rfl
  | @member first done next final n lead nameText body text hlead hname hbody hrest ih =>
    cases rounds with
    | zero => omega
    | succ rounds =>
      have hlength : text.length < rounds := by
        simp only [List.length_append, List.length_cons] at hrounds
        omega
      have hnext := nextMember_lead hlead (nameText ++ (body ++ (text ++ rest)))
      have hvalue := hbody (text ++ rest) (hrest.ends rest)
      simp only [List.append_assoc, List.cons_append]
      rw [membersLoop, bind_of_ok hnext, if_pos rfl, bind_of_ok (hname _), bind_of_ok hvalue]
      exact ih hlength

theorem members_eq {done final : σ} {text : List Char} (h : Members name member true done text final)
    (rest : List Char) : members name member done (text ++ rest) = .ok (final, rest) := by
  apply h.membersLoop_eq
  rw [List.length_append]
  omega

/-- A member, written as its name up to the quote that ends it, the colon and the value. -/
theorem written {first : Bool} {done next final : σ} {n : κ}
    {lead nameText before after value more : List Char} (hlead : Lead first lead)
    (hname : ∀ rest, name (nameText ++ '"' :: rest) = .ok (n, rest))
    (hbody : Reads (member done n) (before ++ ':' :: (after ++ value)) next)
    (hmore : Members name member false next more final) :
    Members name member first done
      (lead ++ '"' :: (nameText ++ '"' :: (before ++ ':' :: (after ++ (value ++ more))))) final := by
  have hquoted : ∀ rest, name (nameText ++ ['"'] ++ rest) = .ok (n, rest) := by
    intro rest
    rw [List.append_assoc]
    exact hname rest
  have hmember : Members name member first done (lead ++ '"' ::
      ((nameText ++ ['"']) ++ ((before ++ ':' :: (after ++ value)) ++ more))) final :=
    .member hlead hquoted hbody hmore
  simpa only [List.append_assoc, List.cons_append, List.nil_append] using hmember

end Members

/-- An object of which each member is read as an entry is read as a map. -/
theorem mapping_reads {value : Reader α} {m : NameMap α} {text : List Char}
    (h : Members stringRest (fun entries name => do
        colon
        let a ← value
        return entries.insert name a) true NameMap.empty text m) :
    ReadsValue (mapping value) ('{' :: text) m := by
  intro gap hgap rest _
  rw [List.append_assoc, List.cons_append]
  unfold mapping
  rw [bind_of_ok (start_gap hgap (by decide) _), if_pos rfl, bind_of_ok (advance_cons _ _)]
  exact h.members_eq rest

theorem orDefault_eq {f : RecordField α} {found : Option α} {a : α}
    (h : found.or f.default? = some a) (absent : Mismatch) (text : List Char) :
    f.orDefault absent found text = .ok (a, text) := by
  unfold RecordField.orDefault
  cases found with
  | some b =>
    cases h
    rfl
  | none =>
    have hdefault : f.default? = some a := h
    rw [hdefault]
    rfl

/-- A record, as an object whose members give some of the fields; a default stands in for each of
the others. -/
theorem record_reads_or {title : String} {first : RecordField α} {second : RecordField β}
    {a? : Option α} {b? : Option β} {a : α} {b : β} {text : List Char}
    (h : Members stringRest (recordMember first second) true (none, none) text (a?, b?))
    (ha : a?.or first.default? = some a) (hb : b?.or second.default? = some b) :
    ReadsValue (record title first second) ('{' :: text) (a, b) := by
  intro gap hgap rest _
  rw [List.append_assoc, List.cons_append]
  unfold record
  rw [bind_of_ok (start_gap hgap (by decide) _), if_pos rfl, bind_of_ok (advance_cons _ _),
    bind_of_ok (h.members_eq rest)]
  show (first.orDefault _ a? >>= _) rest = _
  rw [bind_of_ok (orDefault_eq ha _ rest), bind_of_ok (orDefault_eq hb _ rest)]
  rfl

/-- A record, as an object whose members give both fields. -/
theorem record_reads {title : String} {first : RecordField α} {second : RecordField β} {a : α}
    {b : β} {text : List Char}
    (h : Members stringRest (recordMember first second) true (none, none) text (some a, some b)) :
    ReadsValue (record title first second) ('{' :: text) (a, b) :=
  record_reads_or h rfl rfl

/-! ## Written objects -/

/-- Only blanks go between the tokens. -/
structure Spacing.Blank (spacing : Spacing) : Prop where
  lineBreak : ∀ depth, Gap (spacing.lineBreak depth)
  afterColon : Gap spacing.afterColon

theorem Spacing.indented_blank : Spacing.indented.Blank where
  lineBreak := by
    intro depth c hc
    rcases List.mem_cons.1 hc with hc | hc
    · rw [hc]; rfl
    · rw [List.eq_of_mem_replicate hc]; rfl
  afterColon := by
    intro c hc
    rw [List.mem_singleton.1 hc]
    rfl

/-- What reading these members in a row makes of the value so far. -/
inductive Gathers (member : σ → String → Reader σ) :
    σ → List (List Char × List Char) → σ → Prop where
  | nil {done : σ} : Gathers member done [] done
  | cons {done next final : σ} {name value : List Char} {rest : List (List Char × List Char)} :
      (∀ gap, Gap gap → Reads (member done (String.ofList name)) (':' :: (gap ++ value)) next) →
      Gathers member next rest final →
      Gathers member done ((name, value) :: rest) final

theorem intercalate_comma (line : List Char) (lines : List (List Char)) :
    [','].intercalate (line :: lines) = line ++ lines.flatMap fun l => ',' :: l := by
  induction lines generalizing line with
  | nil => simp [List.intercalate]
  | cons l lines ih =>
    rw [List.intercalate_cons_cons, ih, List.flatMap_cons]
    simp

section

variable {spacing : Spacing} {member : σ → String → Reader σ}

/-- One line of a written object, as a member. -/
theorem Members.line (hs : spacing.Blank) {first : Bool} {done next final : σ}
    {lead name value text : List Char} (hlead : Lead first lead)
    (hbody : ∀ gap, Gap gap →
      Reads (member done (String.ofList name)) (':' :: (gap ++ value)) next)
    (hrest : Members stringRest member false next text final) :
    Members stringRest member first done (lead ++ (memberText spacing name value ++ text)) final := by
  have hbody : Reads (member done (String.ofList name))
      ([] ++ ':' :: (spacing.afterColon ++ value)) next := hbody _ hs.afterColon
  have htext : memberText spacing name value ++ text =
      '"' :: (name.flatMap escapeChar ++
        '"' :: ([] ++ ':' :: (spacing.afterColon ++ (value ++ text)))) := by
    simp [memberText, quoted]
  rw [htext]
  exact .written hlead (stringRest_escaped name) hbody hrest

theorem Gathers.furtherMembers (hs : spacing.Blank) (depth : Nat) {done final : σ}
    {rest : List (List Char × List Char)} (h : Gathers member done rest final) :
    Members stringRest member false done
      ((rest.map fun (name, value) =>
          spacing.lineBreak (depth + 1) ++ memberText spacing name value).flatMap (fun l => ',' :: l) ++
        (spacing.lineBreak depth ++ ['}'])) final := by
  induction h with
  | nil => exact .close (hs.lineBreak depth)
  | @cons done next final name value rest hbody _ ih =>
    have hlead : Lead false ([] ++ ',' :: spacing.lineBreak (depth + 1)) :=
      .next Gap.nil (hs.lineBreak (depth + 1))
    have h := Members.line hs hlead hbody ih
    rw [List.map_cons, List.flatMap_cons]
    simp only [List.append_assoc, List.cons_append, List.nil_append] at h ⊢
    exact h

/-- A written object is the text of its members. -/
theorem Gathers.objectText_eq (hs : spacing.Blank) (depth : Nat) {init final : σ}
    {entries : List (List Char × List Char)} (h : Gathers member init entries final) :
    ∃ text, objectText spacing depth entries = '{' :: text ∧
      Members stringRest member true init text final := by
  cases h with
  | nil => exact ⟨['}'], rfl, Members.close Gap.nil⟩
  | @cons _ next _ name value rest hbody hrest =>
    refine ⟨_, ?_, Members.line hs (.first (hs.lineBreak (depth + 1))) hbody
      (hrest.furtherMembers hs depth)⟩
    unfold objectText
    rw [if_neg (by simp), List.map_cons]
    show '{' :: [','].intercalate (_ :: _) ++ spacing.lineBreak depth ++ ['}'] = _
    rw [intercalate_comma]
    simp only [List.append_assoc, List.cons_append]

end

/-- The rest of a member after its name, with blanks on both sides of the colon. -/
theorem colon_then_reads {r : Reader α} {text before after : List Char} {a : α}
    (h : ReadsValue r text a) (hbefore : Gap before) (hafter : Gap after) :
    Reads (do colon; r) (before ++ ':' :: (after ++ text)) a := by
  intro rest hrest
  have hcolon : colon (before ++ ':' :: (after ++ text ++ rest)) = .ok ((), after ++ text ++ rest) :=
    mark_gap hbefore (by decide) _
  rw [List.append_assoc, List.cons_append, bind_of_ok hcolon]
  exact h after hafter rest hrest

theorem member_reads {r : Reader α} {text before after : List Char} {a : α}
    (h : ReadsValue r text a) (hbefore : Gap before) (hafter : Gap after) (f : α → β) :
    Reads (do colon; let a ← r; return f a) (before ++ ':' :: (after ++ text)) (f a) :=
  colon_then_reads (h.map f) hbefore hafter

theorem colon_reads {r : Reader α} {text gap : List Char} {a : α} (h : ReadsValue r text a)
    (hgap : Gap gap) (f : α → β) :
    Reads (do colon; let a ← r; return f a) (':' :: (gap ++ text)) (f a) :=
  member_reads h Gap.nil hgap f

/-- The entries of a written map are inserted one after the other. -/
theorem gathers_entries {value : Reader α} {write : α → List Char}
    (h : ∀ a, ReadsValue value (write a) a) (m : NameMap α) (entries : List (String × α)) :
    Gathers (fun entries name => do
        colon
        let a ← value
        return entries.insert name a)
      m (entries.map fun (name, a) => (name.toList, write a)) (m.insertAll entries) := by
  induction entries generalizing m with
  | nil => exact .nil
  | cons e rest ih =>
    refine .cons ?_ (ih (m.insert e.1 e.2))
    intro gap hgap
    rw [String.ofList_toList]
    exact colon_reads (h e.2) hgap fun a => m.insert e.1 a

/-- A written map is read as itself, if its values are. -/
theorem mapping_written {value : Reader α} {write : α → List Char} {spacing : Spacing}
    (hs : spacing.Blank) (h : ∀ a, ReadsValue value (write a) a) (depth : Nat) (m : NameMap α) :
    ReadsValue (mapping value)
      (objectText spacing depth (m.toList.map fun (name, a) => (name.toList, write a))) m := by
  have hgathers := gathers_entries h NameMap.empty m.entries
  rw [← NameMap.ofList_eq_insertAll, NameMap.ofList_entries] at hgathers
  obtain ⟨text, htext, hmembers⟩ := hgathers.objectText_eq hs depth
  show ReadsValue _ (objectText spacing depth (m.entries.map _)) m
  rw [htext]
  exact mapping_reads hmembers

/-- A text that holds a value and nothing else. -/
theorem ReadsValue.parse {r : Reader α} {text : List Char} {a : α} (h : ReadsValue r text a) :
    r.parse (String.ofList text) = .ok a := by
  have hread := h [] Gap.nil [] Ends.nil
  rw [List.nil_append, List.append_nil] at hread
  unfold Reader.parse
  rw [String.toList_ofList, hread]
  rfl

end Json
end CheckedSelect
