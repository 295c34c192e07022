import SqlFilter.Proofs.Json.Presentation
import SqlFilter.Proofs.Json.Spelling
import SqlFilter.Proofs.Json.Transport

set_option autoImplicit false

/-! # Pieces of a text in any spelling

What the reader does with names, members, lists and objects however they are spelled. A number ends
only at the character behind it, so `Leads` says what a piece does in front of a text that may stand
behind a value; brackets and braces end by themselves. The items between brackets are put together
with `Chain`, from one state of the bracket to the next (`reads_encloses`).
-/

namespace SqlFilter.Json

variable {ρ : Type} {stage next last : Stage ρ} {text more : List Char}

/-! ## Behind a value -/

/-- The text begins with a character that may stand behind a value. -/
def IsDelimited (text : List Char) : Prop :=
  ∃ c rest, text = c :: rest ∧ IsDelimiter c

theorem IsDelimited.append (h : IsDelimited text) (more : List Char) :
    IsDelimited (text ++ more) := by
  obtain ⟨c, rest, rfl, hc⟩ := h
  exact ⟨c, rest ++ more, rfl, hc⟩

theorem Spaced.isDelimited {c : Char} (hc : IsDelimiter c) (h : Spaced [c] text) :
    IsDelimited text := by
  obtain ⟨space, hspace, rfl⟩ := h
  cases space with
  | nil => exact ⟨c, [], rfl, hc⟩
  | cons d space => exact ⟨d, space ++ [c], rfl, .inl (hspace d List.mem_cons_self)⟩

theorem isDelimiter_comma : IsDelimiter ',' :=
  .inr (.inl rfl)

theorem isDelimiter_closing (form : Form) : IsDelimiter form.closing := by
  cases form
  · exact .inr (.inr (.inr rfl))
  · exact .inr (.inr (.inl rfl))

/-- In front of a text that may stand behind a value, the text leads from one stage to another. -/
def Leads (stage : Stage ρ) (text : List Char) (next : Stage ρ) : Prop :=
  ∀ rest, IsDelimited rest → (State.at stage).run (text ++ rest) = (State.at next).run rest

theorem Reads.leads (h : Reads stage text none next) : Leads stage text next := by
  intro rest _
  rw [State.run_append, h]
  rfl

/-- What stands behind a value ends it. -/
theorem Leads.reads (h : Leads stage text next) (hmore : IsDelimited more)
    (hread : Reads next more none last) : Reads stage (text ++ more) none last := by
  rw [Reads, h more hmore]
  exact hread

theorem Leads.append (h : Leads stage text next) (hmore : IsDelimited more)
    (hlead : Leads next more last) : Leads stage (text ++ more) last := by
  intro rest hrest
  rw [List.append_assoc, h (more ++ rest) (hmore.append rest), hlead rest hrest]

theorem Reads.append_leads (h : Reads stage text none next) (hlead : Leads next more last) :
    Leads stage (text ++ more) last := by
  intro rest hrest
  rw [List.append_assoc, State.run_append, h]
  exact hlead rest hrest

/-! ## White space -/

/-- White space changes nothing between two tokens. -/
def Stage.SkipsSpace (stage : Stage ρ) : Prop :=
  ∀ c, isSpace c = true → stage.step c = .at stage

theorem skipsSpace_expecting (spot : Spot ρ) : (Stage.expecting spot).SkipsSpace :=
  fun _ hspace => if_pos hspace

theorem skipsSpace_colon (spot : Spot ρ) : (Stage.colon spot).SkipsSpace :=
  fun _ hspace => if_pos hspace

theorem skipsSpace_variant (choice : Choice ρ) : (Stage.variant choice).SkipsSpace :=
  fun _ hspace => if_pos hspace

theorem skipsSpace_inside (phase : Phase) (bracket : Open ρ) :
    (Stage.inside phase bracket).SkipsSpace :=
  fun _ hspace => if_pos hspace

theorem skipsSpace_closing (next : Stage ρ) : (Stage.closing next).SkipsSpace :=
  fun _ hspace => if_pos hspace

theorem skipsSpace_finished (result : ρ) : (Stage.finished result).SkipsSpace :=
  fun _ hspace => if_pos hspace

theorem reads_blank (hskip : stage.SkipsSpace) {space : List Char} (h : IsBlank space) :
    Reads stage space none stage := by
  induction space with
  | nil => rfl
  | cons c space ih =>
      have hstep : (State.at stage).step c = .at stage := hskip c (h c List.mem_cons_self)
      have hrest := ih fun d hd => h d (List.mem_cons_of_mem c hd)
      rw [Reads, State.run_cons, hstep]
      exact hrest

/-- A token, with the white space in front of it. -/
theorem reads_spaced (hskip : stage.SkipsSpace) {token : List Char} (h : Spaced token text)
    (hread : Reads stage token none next) : Reads stage text none next := by
  obtain ⟨space, hspace, rfl⟩ := h
  exact (reads_blank hskip hspace).append hread

theorem leads_spaced (hskip : stage.SkipsSpace) {token : List Char} (h : Spaced token text)
    (hlead : Leads stage token next) : Leads stage text next := by
  obtain ⟨space, hspace, rfl⟩ := h
  exact (reads_blank hskip hspace).append_leads hlead

/-- A token of one character. -/
theorem reads_char (hskip : stage.SkipsSpace) {c : Char} (h : Spaced [c] text)
    (hstep : (State.at stage).step c = .at next) : Reads stage text none next :=
  reads_spaced hskip h hstep

/-! ## Names and members -/

/-- A name is read as the string that it stands for. -/
theorem reads_name (use : TextUse ρ) (huse : use.isChecked = true) (hskip : stage.SkipsSpace)
    (hquote : (State.at stage).step '"' = .at (.text .start use)) {name : String}
    (h : IsName name text) : Reads stage text none (use.finish name) := by
  obtain ⟨body, hspells, hspaced⟩ := h
  have hbody : Reads (.text .start use) body none
      (.text ⟨.plain, name.toList.reverse ++ []⟩ use) := run_spells use [] huse hspells
  have hclose : (State.at (.text ⟨.plain, name.toList.reverse ++ []⟩ use)).step '"' =
      .at (use.finish name) := by
    rw [List.append_nil]
    show State.at (use.finish (String.ofList name.toList.reverse.reverse)) = _
    rw [List.reverse_reverse, String.ofList_toList]
  have hopen : Reads stage ['"'] none (.text .start use) := hquote
  exact reads_spaced hskip hspaced (hopen.append (hbody.close hclose))

/-- A string that is only walked over. -/
theorem reads_anyString (use : TextUse ρ) (huse : use.isChecked = false)
    (hskip : stage.SkipsSpace) (hquote : (State.at stage).step '"' = .at (.text .start use))
    (hfinish : ∀ name, use.finish name = next) (h : IsString text) :
    Reads stage text none next := by
  obtain ⟨body, hbody, hspaced⟩ := h
  obtain ⟨after, hrun⟩ := run_stringBody use [] huse hbody
  have hinside : Reads (.text .start use) body none (.text ⟨.plain, after⟩ use) := hrun
  have hclose : (State.at (.text ⟨.plain, after⟩ use)).step '"' = .at next := by
    show State.at (use.finish (String.ofList after.reverse)) = _
    rw [hfinish]
  have hopen : Reads stage ['"'] none (.text .start use) := hquote
  exact reads_spaced hskip hspaced (hopen.append (hinside.close hclose))

theorem reads_colon (spot : Spot ρ) (h : Spaced [':'] text) :
    Reads (.colon spot) text none (.expecting spot) :=
  reads_char (skipsSpace_colon spot) h rfl

theorem leads_member (use : TextUse ρ) (huse : use.isChecked = true) (hskip : stage.SkipsSpace)
    (hquote : (State.at stage).step '"' = .at (.text .start use)) {name : String} {spot : Spot ρ}
    (hname : use.finish name = .colon spot) {value : List Char} (h : IsMember name value text)
    (hvalue : Leads (.expecting spot) value next) : Leads stage text next := by
  obtain ⟨key, colon, hkey, hcolon, rfl⟩ := h
  have hread := reads_name use huse hskip hquote hkey
  rw [hname] at hread
  exact hread.append_leads ((reads_colon spot hcolon).append_leads hvalue)

/-- Behind a name that is refused, the value does not count. -/
theorem reads_refusedMember (use : TextUse ρ) (huse : use.isChecked = true)
    (hskip : stage.SkipsSpace) (hquote : (State.at stage).step '"' = .at (.text .start use))
    {name : String} {error : Error} (hname : use.finish name = .failed error) {value : List Char}
    (h : IsMember name value text) : Reads stage text none (.failed error) := by
  obtain ⟨key, colon, hkey, hcolon, rfl⟩ := h
  have hread := reads_name use huse hskip hquote hkey
  rw [hname] at hread
  exact hread.append (State.run_failed error (colon ++ value))

theorem leads_anyMember (use : TextUse ρ) (huse : use.isChecked = false)
    (hskip : stage.SkipsSpace) (hquote : (State.at stage).step '"' = .at (.text .start use))
    {spot : Spot ρ} (hfinish : ∀ name, use.finish name = .colon spot) {value : List Char}
    (h : IsAnyMember value text) (hvalue : Leads (.expecting spot) value next) :
    Leads stage text next := by
  obtain ⟨key, colon, hkey, hcolon, rfl⟩ := h
  have hread := reads_anyString use huse hskip hquote hfinish hkey
  exact hread.append_leads ((reads_colon spot hcolon).append_leads hvalue)

theorem Stage.nested_of_lt {depth : Nat} (h : depth < nestingLimit) (stage : Stage ρ) :
    stage.nested depth = stage :=
  if_pos h

/-- A name with its content, in braces, whatever the closing brace makes of it. -/
theorem reads_braced {choice : Choice ρ} (hdepth : choice.depth < nestingLimit) {name : String}
    {spot : Spot ρ} (hname : choice.named name = .colon spot) {value : List Char}
    (h : IsVariant name value text) {inner : Stage ρ} (hvalue : Leads (.expecting spot) value inner)
    (hclose : ∀ closing, Spaced ['\x7d'] closing → Reads inner closing none next) :
    Reads (.expecting (.choice choice)) text none next := by
  obtain ⟨member, hmember, opening, body, closing, hopening, hbody, hclosing, rfl⟩ := h
  cases hbody
  have hstep : (State.at (.expecting (.choice choice))).step '\x7b' = .at (.variant choice) := by
    show State.at (Stage.nested choice.depth (.variant choice)) = _
    rw [Stage.nested_of_lt hdepth]
  have hopen := reads_char (skipsSpace_expecting (.choice choice)) hopening hstep
  have hinside := leads_member (.variant choice) rfl (skipsSpace_variant choice) rfl hname hmember
    hvalue
  exact hopen.append
    (hinside.reads (hclosing.isDelimited (isDelimiter_closing .object)) (hclose closing hclosing))

/-- A name with its content, in braces. -/
theorem reads_variant {choice : Choice ρ} (hdepth : choice.depth < nestingLimit) {name : String}
    {spot : Spot ρ} (hname : choice.named name = .colon spot) {value : List Char}
    (h : IsVariant name value text) (hvalue : Leads (.expecting spot) value (.closing next)) :
    Reads (.expecting (.choice choice)) text none next :=
  reads_braced hdepth hname h hvalue fun _ hclosing =>
    reads_char (skipsSpace_closing next) hclosing rfl

/-! ## Items between brackets -/

/-- One by one, the items lead from one state of a bracket to another. -/
inductive Chain : Open ρ → List (List Char) → Open ρ → Prop where
  | nil (bracket : Open ρ) : Chain bracket [] bracket
  | cons {first second last : Open ρ} {item : List Char} {rest : List (List Char)}
      (hitem : ∀ phase, phase ≠ .after →
        Leads (.inside phase first) item (.inside .after second))
      (h : Chain second rest last) : Chain first (item :: rest) last

/-- Items that leave the bracket as it is. -/
theorem Chain.of_forall {bracket : Open ρ} {items : List (List Char)}
    (h : ∀ item ∈ items, ∀ phase, phase ≠ .after →
      Leads (.inside phase bracket) item (.inside .after bracket)) :
    Chain bracket items bracket := by
  induction items with
  | nil => exact .nil bracket
  | cons item rest ih =>
      have hrest := ih fun other hother => h other (List.mem_cons_of_mem item hother)
      exact .cons (h item List.mem_cons_self) hrest

theorem step_comma (bracket : Open ρ) :
    (State.at (.inside .after bracket)).step ',' = .at (.inside .next bracket) := by
  cases bracket with
  | node draft hole => rfl
  | nodeList next draft hole => rfl
  | boundary draft hole => rfl
  | boundaryList next draft hole => rfl
  | items before operand => rfl
  | passing form outer passage => cases form <;> rfl

/-- Items with commas between them. -/
theorem leads_commas {items : List (List Char)} {first last : Open ρ} (h : Commas items text)
    (hchain : Chain first items last) (hitems : items ≠ []) (phase : Phase)
    (hphase : phase ≠ .after) : Leads (.inside phase first) text (.inside .after last) := by
  induction h generalizing first phase with
  | nil => exact absurd rfl hitems
  | single item =>
      cases hchain with
      | cons hitem hrest =>
          cases hrest
          exact hitem phase hphase
  | cons hcomma _ ih =>
      cases hchain with
      | @cons _ bracket _ _ _ hitem hrest =>
          have hstep := reads_char (skipsSpace_inside .after bracket) hcomma (step_comma bracket)
          have hfollowing := ih hrest (List.cons_ne_nil _ _) .next Phase.noConfusion
          exact (hitem phase hphase).append ((hcomma.isDelimited isDelimiter_comma).append _)
            (hstep.append_leads hfollowing)

/-- In braces the reader is at a key, before the first member and behind a comma. -/
theorem step_quote {bracket : Open ρ} (hform : bracket.form = .object) {phase : Phase}
    (hphase : phase ≠ .after) :
    (State.at (.inside phase bracket)).step '"' = .at bracket.key := by
  show Stage.stepSolid (.inside phase bracket) '"' = _
  rw [Stage.stepSolid, hform]
  cases phase with
  | first => rfl
  | after => exact absurd rfl hphase
  | next => rfl

theorem step_closing {bracket : Open ρ} {phase : Phase} (hphase : phase ≠ .next) :
    (State.at (.inside phase bracket)).step bracket.form.closing = .at bracket.close := by
  cases phase with
  | next => exact absurd rfl hphase
  | first =>
      cases bracket with
      | node draft hole => rfl
      | nodeList next draft hole => cases next <;> rfl
      | boundary draft hole => rfl
      | boundaryList next draft hole => cases next <;> rfl
      | items before operand => rfl
      | passing form outer passage => cases form <;> rfl
  | after =>
      cases bracket with
      | node draft hole => rfl
      | nodeList next draft hole => rfl
      | boundary draft hole => rfl
      | boundaryList next draft hole => rfl
      | items before operand => rfl
      | passing form outer passage => cases form <;> rfl

theorem step_opening (slot : Slot ρ) (form : Form) :
    (State.at (.expecting (.slot slot))).step form.opening = .at (slot.opened form) := by
  cases form <;> rfl

theorem reads_opening {slot : Slot ρ} {form : Form} {bracket : Open ρ}
    (hopened : slot.opened form = .inside .first bracket) (h : Spaced [form.opening] text) :
    Reads (.expecting (.slot slot)) text none (.inside .first bracket) := by
  rw [← hopened]
  exact reads_char (skipsSpace_expecting _) h (step_opening slot form)

/-- Brackets or braces with their items. -/
theorem reads_encloses {slot : Slot ρ} {first last : Open ρ} {items : List (List Char)}
    (hopened : slot.opened last.form = .inside .first first) (hchain : Chain first items last)
    (h : Encloses last.form items text) :
    Reads (.expecting (.slot slot)) text none last.close := by
  obtain ⟨opening, body, closing, hopening, hbody, hclosing, rfl⟩ := h
  have hopen := reads_opening hopened hopening
  have hclose : ∀ phase, phase ≠ .next → Reads (.inside phase last) closing none last.close :=
    fun phase hphase => reads_char (skipsSpace_inside phase last) hclosing (step_closing hphase)
  have hinside : Reads (.inside .first first) (body ++ closing) none last.close := by
    cases hitems : items with
    | nil =>
        rw [hitems] at hbody hchain
        cases hbody
        cases hchain
        exact hclose .first Phase.noConfusion
    | cons item rest =>
        rw [hitems] at hbody hchain
        have hlead := leads_commas hbody hchain (List.cons_ne_nil item rest) .first
          Phase.noConfusion
        exact hlead.reads (hclosing.isDelimited (isDelimiter_closing _))
          (hclose .after Phase.noConfusion)
  exact hopen.append hinside

/-! ## An item that is refused -/

theorem Commas.cons_cases {item : List Char} {rest : List (List Char)}
    (h : Commas (item :: rest) text) (hrest : rest ≠ []) :
    ∃ comma more, Spaced [','] comma ∧ Commas rest more ∧ text = item ++ (comma ++ more) := by
  cases h with
  | single => exact absurd rfl hrest
  | cons hcomma h => exact ⟨_, _, hcomma, h, rfl⟩

/-- An item that is refused ends the reading, whatever comes behind it. -/
theorem reads_commas_refused {before after : List (List Char)} {item : List Char}
    {first last : Open ρ} {error : Error} (hchain : Chain first before last)
    (hitem : ∀ phase, phase ≠ .after → Reads (.inside phase last) item none (.failed error))
    (h : Commas (before ++ item :: after) text) (phase : Phase) (hphase : phase ≠ .after) :
    Reads (.inside phase first) text none (.failed error) := by
  induction hchain generalizing text phase with
  | nil bracket =>
      rw [List.nil_append] at h
      by_cases hafter : after = []
      · subst hafter
        cases h
        exact hitem phase hphase
      · obtain ⟨comma, more, -, -, rfl⟩ := h.cons_cases hafter
        exact (hitem phase hphase).append (State.run_failed error (comma ++ more))
  | @cons _ second _ _ _ hhead _ ih =>
      obtain ⟨comma, more, hcomma, hmore, rfl⟩ := h.cons_cases (by simp)
      have hstep := reads_char (skipsSpace_inside .after second) hcomma (step_comma second)
      have hfollowing := ih hitem hmore .next Phase.noConfusion
      exact (hhead phase hphase).reads ((hcomma.isDelimited isDelimiter_comma).append _)
        (hstep.append hfollowing)

theorem reads_encloses_refused {slot : Slot ρ} {form : Form} {before after : List (List Char)}
    {item : List Char} {first last : Open ρ} {error : Error}
    (hopened : slot.opened form = .inside .first first) (hchain : Chain first before last)
    (hitem : ∀ phase, phase ≠ .after → Reads (.inside phase last) item none (.failed error))
    (h : Encloses form (before ++ item :: after) text) :
    Reads (.expecting (.slot slot)) text none (.failed error) := by
  obtain ⟨opening, body, closing, hopening, hbody, -, rfl⟩ := h
  have hopen := reads_opening hopened hopening
  have hinside := reads_commas_refused hchain hitem hbody .first Phase.noConfusion
  exact hopen.append (hinside.append (State.run_failed error closing))

end SqlFilter.Json
