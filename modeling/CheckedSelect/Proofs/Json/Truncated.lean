import CheckedSelect.Proofs.Json.Reading
import Mathlib.Data.List.TakeWhile

/-!
# CheckedSelect.Proofs.Json.Truncated

What readers make of the beginning of a text that they are meant for.

* `NeedsAll`, `NeedsAllOf`: cut off anywhere, the text is reported as too short, and as nothing
  else.
* `NeedsAll.append`, `NeedsAll.bind`, `NeedsAll.start`: the three ways in which a text that is cut
  off is cut off in one of its parts.
* `Demands`: the members of an object that are read in a row and can none of them be cut off.
  `Demands.objectText`: nor then can the object, as it is written.
-/

namespace CheckedSelect
namespace Json

variable {α β σ : Type}

/-- Every proper beginning of the text is too short for the reader. -/
def NeedsAll (r : Reader α) (text : List Char) : Prop :=
  ∀ cut more, text = cut ++ more → more ≠ [] → r cut = .error .truncated

/-- The same, with any blanks before the text. -/
def NeedsAllOf (r : Reader α) (text : List Char) : Prop :=
  ∀ gap, Gap gap → NeedsAll r (gap ++ text)

/-! ## Cuts -/

theorem bind_of_error {r : Reader α} {f : α → Reader β} {text : List Char} {e : ReadError}
    (h : r text = .error e) : (r >>= f) text = .error e := by
  show (r text >>= fun p => f p.1 p.2) = _
  rw [h]
  rfl

theorem needsAll_nil (r : Reader α) : NeedsAll r [] := by
  intro cut more h hmore
  exact absurd (List.append_eq_nil_iff.1 h.symm).2 hmore

theorem needsAll_cons {r : Reader α} {c : Char} {text : List Char} (hnil : r [] = .error .truncated)
    (hcons : ∀ cut more, text = cut ++ more → more ≠ [] → r (c :: cut) = .error .truncated) :
    NeedsAll r (c :: text) := by
  intro cut more h hmore
  cases cut with
  | nil => exact hnil
  | cons d cut =>
    obtain ⟨rfl, htext⟩ := List.cons.inj h
    exact hcons cut more htext hmore

theorem needsAll_one {r : Reader α} (c : Char) (hnil : r [] = .error .truncated) : NeedsAll r [c] :=
  needsAll_cons hnil fun _ _ h hmore => absurd (List.append_eq_nil_iff.1 h.symm).2 hmore

namespace NeedsAll

variable {r : Reader α} {text more : List Char}

/-- A text of two parts is cut off in the first one, or in the second one behind the first. -/
theorem append (htext : NeedsAll r text)
    (hmore : ∀ cut rest, more = cut ++ rest → rest ≠ [] → r (text ++ cut) = .error .truncated) :
    NeedsAll r (text ++ more) := by
  intro cut rest h hrest
  rcases List.append_eq_append_iff.1 h with ⟨cut, rfl, hcut⟩ | ⟨missing, htextcut, hrestmore⟩
  · exact hmore cut rest hcut hrest
  · cases missing with
    | nil =>
      rw [List.append_nil] at htextcut
      rw [← htextcut, ← List.append_nil text]
      exact hmore [] rest hrestmore.symm hrest
    | cons c missing => exact htext cut (c :: missing) htextcut (List.cons_ne_nil c missing)

theorem bind_left (h : NeedsAll r text) (f : α → Reader β) : NeedsAll (r >>= f) text :=
  fun cut more htext hmore => bind_of_error (h cut more htext hmore)

theorem map (h : NeedsAll r text) (f : α → β) : NeedsAll (f <$> r) text := by
  intro cut more htext hmore
  show ((fun p => (f p.1, p.2)) <$> r cut) = _
  rw [h cut more htext hmore]
  rfl

theorem bind {f : α → Reader β} {a : α} (hr : NeedsAll r text)
    (hread : ∀ cut rest, more = cut ++ rest → r (text ++ cut) = .ok (a, cut))
    (hf : NeedsAll (f a) more) : NeedsAll (r >>= f) (text ++ more) := by
  refine (hr.bind_left f).append ?_
  intro cut rest h hrest
  rw [bind_of_ok (hread cut rest h)]
  exact hf cut rest h hrest

end NeedsAll

/-! ## Blanks and marks -/

theorem start_of_gap {gap : List Char} (hgap : Gap gap) : start gap = .error .truncated := by
  unfold start
  rw [List.dropWhile_eq_nil_iff.2 hgap]

theorem Gap.of_append {cut more : List Char} (h : Gap (cut ++ more)) : Gap cut :=
  fun c hc => h c (List.mem_append_left more hc)

theorem Ends.of_append {cut more : List Char} (h : Ends (cut ++ more)) : Ends cut := by
  cases cut with
  | nil => exact Ends.nil
  | cons c cut => exact h

/-- After the first character that is no blank, the cut is up to what comes next. -/
theorem NeedsAll.start {f : Char → Reader α} {gap text : List Char} {c : Char} (hgap : Gap gap)
    (hc : isSpace c = false)
    (h : ∀ cut more, text = cut ++ more → more ≠ [] → f c (c :: cut) = .error .truncated) :
    NeedsAll (Json.start >>= f) (gap ++ c :: text) := by
  refine NeedsAll.append ?_ ?_
  · intro cut more hcut _
    rw [hcut] at hgap
    exact bind_of_error (start_of_gap hgap.of_append)
  · intro cut rest hcut hrest
    cases cut with
    | nil =>
      rw [List.append_nil]
      exact bind_of_error (start_of_gap hgap)
    | cons d cut =>
      obtain ⟨rfl, htext⟩ := List.cons.inj hcut
      rw [bind_of_ok (start_gap hgap hc cut)]
      exact h cut rest htext hrest

theorem NeedsAll.start_one {f : Char → Reader α} {gap : List Char} {c : Char} (hgap : Gap gap)
    (hc : isSpace c = false) : NeedsAll (Json.start >>= f) (gap ++ [c]) :=
  .start hgap hc fun _ _ h hmore => absurd (List.append_eq_nil_iff.1 h.symm).2 hmore

theorem mark_needsAll {gap : List Char} (hgap : Gap gap) {c : Char} (hc : isSpace c = false) :
    NeedsAll (mark c) (gap ++ [c]) :=
  .start_one hgap hc

theorem word_needsAll (cs : List Char) : NeedsAll (word cs) cs := by
  induction cs with
  | nil => exact needsAll_nil _
  | cons c cs ih =>
    refine needsAll_cons rfl ?_
    intro cut more h hmore
    show (if c = c then word cs cut else _) = _
    rw [if_pos rfl]
    exact ih cut more h hmore

/-! ## Strings -/

theorem hexUnit_of_short {text : List Char} (hlength : text.length < 4)
    (hbytes : byteLength text < 4) : hexUnit text = .error .truncated := by
  unfold hexUnit
  split
  · simp only [List.length_cons] at hlength
    omega
  · rw [if_pos hbytes]

/-- A character below space has four digits, and fewer of them are fewer than four bytes. -/
theorem hexUnit_needsAll {n : Nat} (h : n < 32) :
    NeedsAll (α := Nat) hexUnit (Text.padded 16 4 n) := by
  have hfewer : ∀ n < 32, (Text.padded 16 4 n).length = 4 ∧
      ∀ k < 4, byteLength ((Text.padded 16 4 n).take k) < 4 := by decide
  obtain ⟨hlength, hbytes⟩ := hfewer n h
  intro cut more hcut hmore
  have hshort : cut.length < 4 := by
    have hsum := congrArg List.length hcut
    have hpos := List.length_pos_iff.2 hmore
    rw [hlength, List.length_append] at hsum
    omega
  have hprefix : (Text.padded 16 4 n).take cut.length = cut := by
    rw [hcut, List.take_left]
  refine hexUnit_of_short hshort ?_
  rw [← hprefix]
  exact hbytes cut.length hshort

theorem escape_padded_needsAll {n : Nat} (h : n < 32) :
    NeedsAll (α := Char) escape ('u' :: Text.padded 16 4 n) := by
  refine needsAll_cons rfl ?_
  intro cut more hcut hmore
  have hunit : hexUnit cut = .error .truncated := hexUnit_needsAll h cut more hcut hmore
  rw [escape, if_pos rfl, unicodeEscape, hunit]

theorem stringBody_slash_needsAll {text : List Char} (h : NeedsAll (α := Char) escape text) :
    NeedsAll (α := List Char) stringBody ('\\' :: text) := by
  refine needsAll_cons (by rw [stringBody]) ?_
  intro cut more hcut hmore
  exact stringBody_escape_error (h cut more hcut hmore)

theorem stringBody_escapeChar_needsAll (c : Char) :
    NeedsAll (α := List Char) stringBody (escapeChar c) := by
  unfold escapeChar
  split
  · exact stringBody_slash_needsAll (needsAll_one _ rfl)
  · exact stringBody_slash_needsAll (needsAll_one _ rfl)
  · exact stringBody_slash_needsAll (needsAll_one _ rfl)
  · exact stringBody_slash_needsAll (needsAll_one _ rfl)
  · exact stringBody_slash_needsAll (needsAll_one _ rfl)
  · exact stringBody_slash_needsAll (needsAll_one _ rfl)
  · exact stringBody_slash_needsAll (needsAll_one _ rfl)
  · by_cases hspace : c < ' '
    · rw [if_pos hspace]
      exact stringBody_slash_needsAll (escape_padded_needsAll hspace)
    · rw [if_neg hspace]
      exact needsAll_one c (by rw [stringBody])

/-- A written string may be cut inside an escape, between two characters or before its quote. -/
theorem stringBody_needsAll (text : List Char) :
    NeedsAll (α := List Char) stringBody (text.flatMap escapeChar ++ ['"']) := by
  induction text with
  | nil => exact needsAll_one '"' (by rw [stringBody])
  | cons c rest ih =>
    rw [List.flatMap_cons, List.append_assoc]
    refine (stringBody_escapeChar_needsAll c).append ?_
    intro cut more hcut hmore
    have hrest : stringBody cut = .error .truncated := ih cut more hcut hmore
    rw [stringBody_escapeChar, hrest]
    rfl

theorem stringRest_needsAll (text : List Char) :
    NeedsAll stringRest (text.flatMap escapeChar ++ ['"']) := by
  intro cut more hcut hmore
  have hbody : stringBody cut = .error .truncated := stringBody_needsAll text cut more hcut hmore
  rw [stringRest, hbody]

/-! ## Values -/

theorem boolean_needsAll (b : Bool) : NeedsAllOf boolean (boolText b) := by
  intro gap hgap
  cases b with
  | true =>
    have htext : boolText true = 't' :: "rue".toList := rfl
    rw [htext]
    refine NeedsAll.start hgap (by decide) ?_
    intro cut more hcut hmore
    rw [if_pos rfl]
    exact (word_needsAll "true".toList).bind_left _ ('t' :: cut) more (congrArg _ hcut) hmore
  | false =>
    have htext : boolText false = 'f' :: "alse".toList := rfl
    rw [htext]
    refine NeedsAll.start hgap (by decide) ?_
    intro cut more hcut hmore
    rw [if_neg (by decide), if_pos rfl]
    exact (word_needsAll "false".toList).bind_left _ ('f' :: cut) more (congrArg _ hcut) hmore

theorem nameOf_needsAll {τ : Type} (known : List String) (ofName? : String → Option τ)
    (name : List Char) : NeedsAllOf (nameOf known ofName?) (quoted name) := by
  intro gap hgap
  unfold nameOf choice
  refine NeedsAll.start hgap (by decide) ?_
  intro cut more hcut hmore
  rw [if_pos rfl, bind_of_ok (advance_cons _ _)]
  exact ((stringRest_needsAll name).bind_left _).bind_left _ cut more hcut hmore

/-! ## Objects -/

theorem nextMember_close_needsAll {gap : List Char} (hgap : Gap gap) (first : Bool) :
    NeedsAll (nextMember first) (gap ++ ['}']) :=
  .start_one hgap (by decide)

theorem nextMember_lead_needsAll {first : Bool} {lead : List Char} (h : Lead first lead) :
    NeedsAll (nextMember first) (lead ++ ['"']) := by
  cases h with
  | first hgap => exact .start_one hgap (by decide)
  | @next gap gap' hgap hgap' =>
    rw [List.append_assoc, List.cons_append]
    refine NeedsAll.start hgap (by decide) ?_
    intro cut more hcut hmore
    rw [if_neg (by decide), if_neg (by decide), if_pos rfl, bind_of_ok (advance_cons _ _)]
    exact (mark_needsAll hgap' (by decide)).bind_left _ cut more hcut hmore

theorem colon_needsAll {r : Reader α} {text gap : List Char} (h : NeedsAllOf r text)
    (hgap : Gap gap) (f : α → β) :
    NeedsAll (do colon; let a ← r; return f a) (':' :: (gap ++ text)) := by
  have hcolon : NeedsAll colon [':'] := mark_needsAll Gap.nil (by decide)
  have hread : ∀ cut rest, gap ++ text = cut ++ rest → colon ([':'] ++ cut) = .ok ((), cut) :=
    fun cut _ _ => mark_gap Gap.nil (by decide) cut
  exact hcolon.bind hread ((h gap hgap).bind_left _)

/-- Members that are read in a row, from the colon on. None of them can be cut off. -/
inductive Demands (member : σ → String → Reader σ) : σ → List (List Char × List Char) → Prop where
  | nil {done : σ} : Demands member done []
  | cons {done next : σ} {name value : List Char} {rest : List (List Char × List Char)} :
      (∀ gap, Gap gap → Reads (member done (String.ofList name)) (':' :: (gap ++ value)) next) →
      (∀ gap, Gap gap → NeedsAll (member done (String.ofList name)) (':' :: (gap ++ value))) →
      Demands member next rest →
      Demands member done ((name, value) :: rest)

section

variable {spacing : Spacing} {member : σ → String → Reader σ}

/-- What is written of an object behind a member. -/
def furtherText (spacing : Spacing) (depth : Nat) (entries : List (List Char × List Char)) :
    List Char :=
  (entries.map fun (name, value) =>
      spacing.lineBreak (depth + 1) ++ memberText spacing name value).flatMap (fun l => ',' :: l) ++
    (spacing.lineBreak depth ++ ['}'])

theorem furtherText_cons (depth : Nat) (name value : List Char)
    (rest : List (List Char × List Char)) :
    furtherText spacing depth ((name, value) :: rest) =
      ',' :: spacing.lineBreak (depth + 1) ++
        (memberText spacing name value ++ furtherText spacing depth rest) := by
  simp [furtherText, List.append_assoc]

theorem ends_furtherText (hs : spacing.Blank) (depth : Nat)
    (entries : List (List Char × List Char)) : Ends (furtherText spacing depth entries) := by
  cases entries with
  | nil => exact (hs.lineBreak depth).ends_append (Ends.brace [])
  | cons e rest => exact Ends.comma _

/-- However many rounds are left: without any, the text counts as too short as well. -/
theorem membersLoop_close_needsAll {gap : List Char} (hgap : Gap gap) (rounds : Nat) (first : Bool)
    (done : σ) : NeedsAll (membersLoop stringRest member rounds first done) (gap ++ ['}']) := by
  cases rounds with
  | zero => exact fun _ _ _ _ => rfl
  | succ rounds =>
    rw [membersLoop]
    exact (nextMember_close_needsAll hgap first).bind_left _

theorem membersLoop_line_needsAll (hs : spacing.Blank) {first : Bool} {done next : σ}
    {lead name value text : List Char} (hlead : Lead first lead)
    (hreads : ∀ gap, Gap gap →
      Reads (member done (String.ofList name)) (':' :: (gap ++ value)) next)
    (hneeds : ∀ gap, Gap gap →
      NeedsAll (member done (String.ofList name)) (':' :: (gap ++ value)))
    (hends : Ends text)
    (htext : ∀ rounds, NeedsAll (membersLoop stringRest member rounds false next) text)
    (rounds : Nat) :
    NeedsAll (membersLoop stringRest member rounds first done)
      (lead ++ (memberText spacing name value ++ text)) := by
  cases rounds with
  | zero => exact fun _ _ _ _ => rfl
  | succ rounds =>
    have hvalue : NeedsAll
        (member done (String.ofList name) >>= membersLoop stringRest member rounds false)
        (':' :: (spacing.afterColon ++ value) ++ text) := by
      refine (hneeds _ hs.afterColon).bind ?_ (htext rounds)
      intro cut rest hcut
      exact hreads _ hs.afterColon cut (Ends.of_append (hcut ▸ hends))
    have hname : NeedsAll
        (stringRest >>= fun n => member done n >>= membersLoop stringRest member rounds false)
        (name.flatMap escapeChar ++ ['"'] ++ (':' :: (spacing.afterColon ++ value) ++ text)) := by
      refine (stringRest_needsAll name).bind ?_ hvalue
      intro cut rest _
      rw [List.append_assoc]
      exact stringRest_escaped name cut
    have hwritten : lead ++ (memberText spacing name value ++ text) =
        lead ++ ['"'] ++ (name.flatMap escapeChar ++ ['"'] ++
          (':' :: (spacing.afterColon ++ value) ++ text)) := by
      simp [memberText, quoted]
    rw [hwritten, membersLoop]
    refine (nextMember_lead_needsAll hlead).bind (a := true) ?_ hname
    intro cut rest _
    rw [List.append_assoc]
    exact nextMember_lead hlead cut

theorem Demands.further (hs : spacing.Blank) (depth : Nat) {done : σ}
    {entries : List (List Char × List Char)} (h : Demands member done entries) (rounds : Nat) :
    NeedsAll (membersLoop stringRest member rounds false done)
      (furtherText spacing depth entries) := by
  -- By the members, for any number of rounds, since each member uses one up.
  induction h generalizing rounds with
  | nil => exact membersLoop_close_needsAll (hs.lineBreak depth) rounds false _
  | @cons done next name value rest hreads hneeds _ ih =>
    have hlead : Lead false ([] ++ ',' :: spacing.lineBreak (depth + 1)) :=
      .next Gap.nil (hs.lineBreak (depth + 1))
    rw [furtherText_cons]
    exact membersLoop_line_needsAll hs hlead hreads hneeds (ends_furtherText hs depth rest) ih rounds

/-- A written object that is cut off behind its opening brace. -/
theorem Demands.objectText (hs : spacing.Blank) (depth : Nat) {init : σ}
    {entries : List (List Char × List Char)} (h : Demands member init entries) :
    ∃ text, Json.objectText spacing depth entries = '{' :: text ∧
      NeedsAll (members stringRest member init) text := by
  cases h with
  | nil =>
    refine ⟨['}'], rfl, ?_⟩
    intro cut more hcut hmore
    exact membersLoop_close_needsAll Gap.nil (cut.length + 1) true init cut more hcut hmore
  | @cons _ next name value rest hreads hneeds hrest =>
    refine ⟨spacing.lineBreak (depth + 1) ++
      (memberText spacing name value ++ furtherText spacing depth rest), ?_, ?_⟩
    · unfold Json.objectText
      rw [if_neg (by simp), List.map_cons]
      show '{' :: [','].intercalate (_ :: _) ++ spacing.lineBreak depth ++ ['}'] = _
      rw [intercalate_comma]
      simp only [furtherText, List.append_assoc, List.cons_append]
    · intro cut more hcut hmore
      exact membersLoop_line_needsAll hs (.first (hs.lineBreak (depth + 1))) hreads hneeds
        (ends_furtherText hs depth rest) (hrest.further hs depth) (cut.length + 1) cut more hcut hmore

end

/-! ## Maps and records -/

theorem mapping_needsAll {value : Reader α} {text : List Char}
    (h : NeedsAll (members stringRest (fun entries name => do
        colon
        let a ← value
        return entries.insert name a) NameMap.empty) text) :
    NeedsAllOf (mapping value) ('{' :: text) := by
  intro gap hgap
  unfold mapping
  refine NeedsAll.start hgap (by decide) ?_
  intro cut more hcut hmore
  rw [if_pos rfl, bind_of_ok (advance_cons _ _)]
  exact h cut more hcut hmore

theorem record_needsAll {title : String} {first : RecordField α} {second : RecordField β}
    {text : List Char}
    (h : NeedsAll (members stringRest (recordMember first second) (none, none)) text) :
    NeedsAllOf (record title first second) ('{' :: text) := by
  intro gap hgap
  unfold record
  refine NeedsAll.start hgap (by decide) ?_
  intro cut more hcut hmore
  rw [if_pos rfl, bind_of_ok (advance_cons _ _)]
  exact h.bind_left _ cut more hcut hmore

theorem demands_entries {value : Reader α} {write : α → List Char}
    (hreads : ∀ a, ReadsValue value (write a) a) (hneeds : ∀ a, NeedsAllOf value (write a))
    (m : NameMap α) (entries : List (String × α)) :
    Demands (fun entries name => do
        colon
        let a ← value
        return entries.insert name a)
      m (entries.map fun (name, a) => (name.toList, write a)) := by
  induction entries generalizing m with
  | nil => exact .nil
  | cons e rest ih =>
    refine .cons ?_ ?_ (ih (m.insert e.1 e.2))
    · intro gap hgap
      rw [String.ofList_toList]
      exact colon_reads (hreads e.2) hgap fun a => m.insert e.1 a
    · intro gap hgap
      rw [String.ofList_toList]
      exact colon_needsAll (hneeds e.2) hgap fun a => m.insert e.1 a

theorem mapping_written_needsAll {value : Reader α} {write : α → List Char} {spacing : Spacing}
    (hs : spacing.Blank) (hreads : ∀ a, ReadsValue value (write a) a)
    (hneeds : ∀ a, NeedsAllOf value (write a)) (depth : Nat) (m : NameMap α) :
    NeedsAllOf (mapping value)
      (objectText spacing depth (m.toList.map fun (name, a) => (name.toList, write a))) := by
  obtain ⟨text, htext, hmembers⟩ :=
    (demands_entries hreads hneeds NameMap.empty m.toList).objectText hs depth
  rw [htext]
  exact mapping_needsAll hmembers

/-- A whole text that is cut off. -/
theorem NeedsAllOf.parse {r : Reader α} {text : List Char} (h : NeedsAllOf r text) {cut more : String}
    (hcut : String.ofList text = cut ++ more) (hmore : more ≠ "") :
    r.parse cut = .error .truncated := by
  have htext : [] ++ text = cut.toList ++ more.toList := by
    rw [← String.toList_append, ← hcut, String.toList_ofList, List.nil_append]
  have hread := h [] Gap.nil cut.toList more.toList htext (by simpa using hmore)
  unfold Reader.parse
  rw [hread]

end Json
end CheckedSelect
