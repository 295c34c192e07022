import SqlFilter.Proofs.Json.Numerals
import SqlFilter.Proofs.Json.Pieces

set_option autoImplicit false

/-! # Values that are walked over

A value without meaning is followed from its first character to its last, whatever it is and however
deeply it nests (`IsJson.leads`), so a member that is no field leaves everything as it was
(`leads_unknown`). An item of a list is read like a value in its place (`leads_item`).
-/

namespace SqlFilter.Json

variable {ρ : Type} {next : Stage ρ} {text : List Char}

/-! ## Items of a list

The reader sees at the first character of an item whether the list ends there. -/

/-- The text begins with a token that does not close a list. -/
def BeginsItem (text : List Char) : Prop :=
  ∃ c rest, Spaced (c :: rest) text ∧ isSpace c = false ∧ c ≠ ']'

theorem IsName.beginsItem {name : String} (h : IsName name text) : BeginsItem text := by
  obtain ⟨body, -, hspaced⟩ := h
  exact ⟨'"', body ++ ['"'], hspaced, by decide, by decide⟩

theorem IsString.beginsItem (h : IsString text) : BeginsItem text := by
  obtain ⟨body, -, hspaced⟩ := h
  exact ⟨'"', body ++ ['"'], hspaced, by decide, by decide⟩

theorem Encloses.beginsItem {form : Form} {items : List (List Char)}
    (h : Encloses form items text) : BeginsItem text := by
  obtain ⟨opening, body, closing, ⟨space, hspace, rfl⟩, -, -, rfl⟩ := h
  refine ⟨form.opening, body ++ closing, ⟨space, hspace, ?_⟩, ?_, ?_⟩
  · rw [List.append_assoc, List.singleton_append]
  · cases form <;> decide
  · cases form <;> decide

theorem IsVariant.beginsItem {name : String} {value : List Char} (h : IsVariant name value text) :
    BeginsItem text := by
  obtain ⟨member, -, hspaced⟩ := h
  exact hspaced.beginsItem

theorem beginsItem_word {word : List Char} (hword : word ∈ words) (h : Spaced word text) :
    BeginsItem text := by
  simp only [words, List.mem_cons, List.not_mem_nil, or_false] at hword
  rcases hword with rfl | rfl | rfl
  · exact ⟨'n', _, h, by decide, by decide⟩
  · exact ⟨'t', _, h, by decide, by decide⟩
  · exact ⟨'f', _, h, by decide, by decide⟩

/-- A number begins with a minus sign or a digit. -/
theorem beginsItem_number (form : NumberForm) (h : Spaced form.text text) : BeginsItem text := by
  have hread := form.ofText?_text
  cases htext : form.text with
  | nil =>
      rw [htext] at hread
      exact absurd hread (by simp [NumberScan.ofText?])
  | cons c rest =>
      rw [htext] at h hread
      rw [NumberScan.ofText?] at hread
      split at hread
      · next hc =>
          refine ⟨c, rest, h, ?_, ?_⟩
          · rw [Bool.eq_false_iff]
            intro hspace
            rcases (isSpace_iff c).mp hspace with rfl | rfl | rfl | rfl <;> simp at hc
          · rintro rfl
            simp at hc
      · exact absurd hread (by simp)

theorem IsJson.beginsItem (h : IsJson text) : BeginsItem text := by
  cases h with
  | word hword htext => exact beginsItem_word hword htext
  | number form htext => exact beginsItem_number form htext
  | string htext => exact htext.beginsItem
  | list _ htext => exact htext.beginsItem
  | object _ _ htext => exact htext.beginsItem

theorem IsFlag.beginsItem {value : Bool} (h : IsFlag value text) : BeginsItem text := by
  cases value with
  | false => exact beginsItem_word (by decide) h
  | true => exact beginsItem_word (by decide) h

theorem step_expecting_of_solid (spot : Spot ρ) {c : Char} (h : isSpace c = false) :
    (State.at (.expecting spot)).step c = spot.begin c :=
  if_neg (by rw [h]; exact Bool.false_ne_true)

theorem step_inside_of_solid (phase : Phase) (bracket : Open ρ) {c : Char}
    (h : isSpace c = false) :
    (State.at (.inside phase bracket)).step c = Stage.stepSolid (.inside phase bracket) c :=
  if_neg (by rw [h]; exact Bool.false_ne_true)

/-- A character that does not close the list begins an item. -/
theorem step_item (bracket : Open ρ) {spot : Spot ρ} (hform : bracket.form = .array)
    (hitem : bracket.item? = some spot) {phase : Phase} (hphase : phase ≠ .after) {c : Char}
    (hsolid : isSpace c = false) (hclosing : c ≠ ']') :
    (State.at (.inside phase bracket)).step c = (State.at (.expecting spot)).step c := by
  have hnot : ¬ (c = ']' ∧ bracket.isChecked = true) := fun hc => hclosing hc.1
  rw [step_inside_of_solid phase bracket hsolid, step_expecting_of_solid spot hsolid,
    Stage.stepSolid, hform]
  cases phase with
  | first => simp only [Open.stepArray, hitem, if_neg hclosing]
  | after => exact absurd rfl hphase
  | next => simp only [Open.stepArray, hitem, if_neg hnot]

/-- An item of a list is read like a value in its place. -/
theorem leads_item (bracket : Open ρ) {spot : Spot ρ} (hform : bracket.form = .array)
    (hitem : bracket.item? = some spot) (hbegins : BeginsItem text)
    (h : Leads (.expecting spot) text next) (phase : Phase) (hphase : phase ≠ .after) :
    Leads (.inside phase bracket) text next := by
  obtain ⟨c, token, ⟨space, hspace, rfl⟩, hsolid, hclosing⟩ := hbegins
  intro rest hrest
  have hinside := reads_blank (skipsSpace_inside phase bracket) hspace
  have hbefore := reads_blank (skipsSpace_expecting spot) hspace
  have hstep := step_item bracket hform hitem hphase hsolid hclosing
  rw [← h rest hrest, List.append_assoc, State.run_append (.at (.inside phase bracket)),
    State.run_append (.at (.expecting spot)), hinside, hbefore]
  show ((State.at (.inside phase bracket)).step c).run (token ++ rest) =
    ((State.at (.expecting spot)).step c).run (token ++ rest)
  rw [hstep]

/-- A number, in front of what ends it. -/
theorem leads_number (slot : Slot ρ) (form : NumberForm) :
    Leads (.expecting (.slot slot)) form.text (slot.acceptNumber form.scan) := by
  rintro rest ⟨c, more, rfl, hc⟩
  rw [List.append_cons, State.run_append,
    run_complete slot form.ofText?_text form.scan_isComplete hc]
  rfl

/-! ## Values without meaning -/

theorem reads_word_passing (outer : List Form) (passage : Passage ρ) {word : List Char}
    (hword : word ∈ words) :
    Reads (.expecting (.slot (.passing outer passage))) word none (passage.passed outer) := by
  simp only [words, List.mem_cons, List.not_mem_nil, or_false] at hword
  rcases hword with rfl | rfl | rfl
  · rfl
  · rfl
  · rfl

section Passing

variable {passage : Passage ρ} (hpassage : passage.isChecked = false)
include hpassage

theorem opened_passing (outer : List Form) (form : Form) :
    (Slot.passing outer passage).opened form = .inside .first (.passing form outer passage) := by
  cases passage with
  | scalar hole => cases hpassage
  | node draft hole => rfl
  | boundary draft hole => rfl

theorem acceptNumber_passing (outer : List Form) (scan : NumberScan) :
    (Slot.passing outer passage).acceptNumber scan = passage.passed outer := by
  rw [Slot.acceptNumber]
  cases scan.scalar? with
  | some value => rfl
  | none =>
      show (if passage.isChecked then _ else passage.passed outer) = _
      rw [hpassage, if_neg Bool.false_ne_true]

/-- **Skimming.** A value without meaning is followed to its end, whatever it is. -/
theorem IsJson.leads (h : IsJson text) (outer : List Form) :
    Leads (.expecting (.slot (.passing outer passage))) text (passage.passed outer) := by
  induction h generalizing outer with
  | word hword htext =>
      have hread := reads_word_passing outer passage hword
      exact (reads_spaced (skipsSpace_expecting _) htext hread).leads
  | number form htext =>
      have hlead := leads_number (.passing outer passage) form
      rw [acceptNumber_passing hpassage] at hlead
      exact leads_spaced (skipsSpace_expecting _) htext hlead
  | string htext =>
      have hread := reads_anyString (.value (.passing outer passage)) hpassage
        (skipsSpace_expecting (.slot (.passing outer passage))) rfl (fun _ => rfl) htext
      exact hread.leads
  | list hitems htext ih =>
      have hchain : Chain (.passing .array outer passage) _ (.passing .array outer passage) :=
        Chain.of_forall fun item hitem =>
          leads_item (.passing .array outer passage) rfl rfl (hitems item hitem).beginsItem
            (ih item hitem (.array :: outer))
      exact (reads_encloses (opened_passing hpassage outer .array) hchain htext).leads
  | @object members text hvalues hmembers htext ih =>
      have hchain : Chain (.passing .object outer passage) (members.map Prod.snd)
          (.passing .object outer passage) := by
        refine Chain.of_forall fun text hmember phase hphase => ?_
        obtain ⟨m, hm, rfl⟩ := List.mem_map.mp hmember
        exact leads_anyMember (.passingKey (.object :: outer) passage) hpassage
          (skipsSpace_inside _ _) (step_quote rfl hphase) (fun _ => rfl) (hmembers m hm)
          (ih m hm (.object :: outer))
      exact (reads_encloses (opened_passing hpassage outer .object) hchain htext).leads

/-- A member whose name is no field is passed by, with its value. -/
theorem leads_unknown {bracket : Open ρ} (hform : bracket.form = .object) {use : TextUse ρ}
    (huse : use.isChecked = true) (hkey : bracket.key = .text .start use) {name : String}
    (hname : use.finish name = .colon (.slot (.passing [] passage))) {value : List Char}
    (hvalue : IsJson value) (htext : IsMember name value text) {phase : Phase}
    (hphase : phase ≠ .after) :
    Leads (.inside phase bracket) text (passage.passed []) := by
  have hquote := step_quote hform hphase
  rw [hkey] at hquote
  exact leads_member use huse (skipsSpace_inside phase bracket) hquote hname htext
    (hvalue.leads hpassage [])

end Passing

end SqlFilter.Json
