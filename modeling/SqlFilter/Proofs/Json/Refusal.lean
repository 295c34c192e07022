import SqlFilter.Proofs.Json.Ending

set_option autoImplicit false

/-! # Refused for good

An error that has been met is the answer whatever follows (`State.run_failed`). At the end of a
document the reader can say no in two more places, and there the refusal is read off the state: a
number that may not end where it does, and a comma behind the last field of a list of fields. The
comma leaves the reader no way back (`State.IsRefused`); the number does, and it is the only thing
that does. A state inside a number is reached by a character of numbers (`State.endsWith_run`), so
by its last character a document can be told to be refused for good.
-/

namespace SqlFilter.Json

variable {ρ : Type}

/-! ## Refused states -/

namespace State

/-- Whatever follows, the document is refused, for a reason of the given kind. -/
inductive IsRefused (category : Category) : State ρ → Prop where
  /-- an error has been met -/
  | failed {error : Error} (hcategory : error.category = category) :
      IsRefused category (.at (.failed error))
  /-- a comma stands behind the last field of a list of fields -/
  | comma {bracket : Open ρ} (hform : bracket.form = .array) (hitem : bracket.item? = none)
      (hcategory : category = .syntactic) : IsRefused category (.at (.inside .next bracket))

namespace IsRefused

variable {category : Category} {state : State ρ}

theorem step (h : state.IsRefused category) (c : Char) : (state.step c).IsRefused category := by
  cases h with
  | failed hcategory => exact .failed hcategory
  | @comma bracket hform hitem hcategory =>
      obtain rfl := hcategory
      show (if isSpace c then State.at (.inside .next bracket) else
        (Stage.inside .next bracket).stepSolid c).IsRefused .syntactic
      split
      · exact .comma hform hitem rfl
      · rw [Stage.stepSolid, hform]
        show (bracket.stepArray .next c).IsRefused .syntactic
        rw [Open.stepArray, hitem]
        -- a closing bracket and any other character are errors of one kind
        split
        · exact .failed rfl
        · exact .failed rfl

theorem run (h : state.IsRefused category) (text : List Char) :
    (state.run text).IsRefused category := by
  induction text generalizing state with
  | nil => exact h
  | cons c text ih => exact ih (h.step c)

theorem finish (h : state.IsRefused category) :
    ∃ error, state.finish = .error error ∧ error.category = category := by
  cases h with
  | @failed error hcategory => exact ⟨error, rfl, hcategory⟩
  | @comma bracket hform hitem hcategory =>
      refine ⟨.malformed .trailingText, ?_, hcategory.symm⟩
      show Except.error (bracket.unfinished .next) = _
      unfold Open.unfinished
      rw [hform, hitem]
      rfl

end IsRefused

end State

/-- Outside a number, a document that is refused at its end for another reason than its end is
refused for good. -/
theorem Stage.isRefused_of_finish {stage : Stage ρ} {error : Error}
    (h : stage.finish = .error error) (hcategory : error.category ≠ .eof) :
    (State.at stage).IsRefused error.category := by
  cases stage with
  | failed error' =>
      obtain rfl := Except.error.inj h
      exact .failed rfl
  | finished result => cases h
  | inside phase bracket =>
      obtain rfl : bracket.unfinished phase = error := Except.error.inj h
      rcases bracket.unfinished_cases phase with ⟨place, hplace⟩ | ⟨rfl, hform, hitem, hfault⟩
      · rw [hplace] at hcategory
        exact absurd rfl hcategory
      · rw [hfault]
        exact .comma hform hitem rfl
  | expecting spot | word next rest atom slot | text scan use | colon spot | variant choice
  | closing next =>
      obtain rfl := Except.error.inj h
      exact absurd rfl hcategory

/-! ## The last character of a number -/

/-- A character that stands in numbers: a digit, the point, the mark of an exponent or a sign. -/
def IsNumberChar (c : Char) : Prop :=
  c.isDigit = true ∨ c = '.' ∨ c = 'e' ∨ c = 'E' ∨ c = '+' ∨ c = '-'

instance (c : Char) : Decidable (IsNumberChar c) :=
  inferInstanceAs (Decidable (_ ∨ _ ∨ _ ∨ _ ∨ _ ∨ _))

/-- What a number goes on with is a character of numbers. -/
theorem NumberScan.isNumberChar_of_step {s next : NumberScan} {c : Char}
    (h : s.step c = .more next) : IsNumberChar c := by
  by_contra hnot
  rw [IsNumberChar, not_or, not_or, not_or, not_or, not_or] at hnot
  obtain ⟨hdigit, hpoint, he, hE, hplus, hminus⟩ := hnot
  have hmark : isMark c = false := by simp [isMark, he, hE]
  have hzero : c ≠ '0' := by
    rintro rfl
    exact hdigit rfl
  unfold step at h
  split at h
  all_goals simp [hdigit, hzero, hpoint, hmark, hplus, hminus] at h

/-- After the given character the reader is not inside a number, or it is a character of numbers. -/
def State.EndsWith (c : Char) : State ρ → Prop
  | .at _ => True
  | .number _ _ => IsNumberChar c

theorem Slot.endsWith_begin (slot : Slot ρ) (c : Char) : (slot.begin c).EndsWith c := by
  unfold begin
  split
  · exact True.intro
  split
  · exact True.intro
  split
  · exact True.intro
  split
  · exact True.intro
  split
  · exact True.intro
  split
  · exact True.intro
  split
  · next hnumber =>
      rcases hnumber with rfl | hdigit
      · exact (by decide : IsNumberChar '-')
      · exact .inl hdigit
  · exact True.intro

theorem Spot.endsWith_begin (spot : Spot ρ) (c : Char) : (spot.begin c).EndsWith c := by
  cases spot with
  | choice names =>
      rw [begin]
      split
      · exact True.intro
      split
      · exact True.intro
      · exact True.intro
  | slot place => exact place.endsWith_begin c

theorem Open.endsWith_stepArray (bracket : Open ρ) (phase : Phase) (c : Char) :
    (bracket.stepArray phase c).EndsWith c := by
  unfold stepArray
  split
  · next spot _ =>
      split
      · exact True.intro
      · exact spot.endsWith_begin c
  · split
    · exact True.intro
    · exact True.intro
  · split
    · exact True.intro
    split
    · exact True.intro
    · exact True.intro
  · split
    · exact True.intro
    split
    · next spot _ => exact spot.endsWith_begin c
    · exact True.intro

theorem Stage.endsWith_stepSolid (stage : Stage ρ) (c : Char) : (stage.stepSolid c).EndsWith c := by
  cases stage with
  | expecting spot => exact spot.endsWith_begin c
  | inside phase bracket =>
      rw [stepSolid]
      split
      · exact True.intro
      · exact bracket.endsWith_stepArray phase c
  | colon spot =>
      rw [stepSolid]
      split <;> exact True.intro
  | variant choice =>
      rw [stepSolid]
      split
      · exact True.intro
      split <;> exact True.intro
  | closing next =>
      rw [stepSolid]
      split <;> exact True.intro
  | finished result => exact True.intro
  | failed error => exact True.intro
  | word next rest atom slot => exact True.intro
  | text scan use => exact True.intro

theorem Stage.endsWith_step (stage : Stage ρ) (c : Char) : (stage.step c).EndsWith c := by
  unfold step
  split
  · exact True.intro
  · split
    · split <;> exact True.intro
    · exact True.intro
  · split <;> exact True.intro
  · split
    · exact True.intro
    · exact stage.endsWith_stepSolid c

namespace State

theorem endsWith_step (state : State ρ) (c : Char) : (state.step c).EndsWith c := by
  cases state with
  | «at» stage => exact stage.endsWith_step c
  | number scan slot =>
      rw [step]
      split
      · next hmore => exact NumberScan.isNumberChar_of_step hmore
      · exact (slot.acceptNumber scan).endsWith_step c
      · exact True.intro

theorem endsWith_run (state : State ρ) (text : List Char) (c : Char) :
    (state.run (text ++ [c])).EndsWith c := by
  rw [run_append]
  exact (state.run text).endsWith_step c

/-- A document that does not end like a number is refused for good, unless it is refused for its
end. -/
theorem isRefused_run {stage : Stage ρ} {text : List Char} {error : Error}
    (h : ((State.at stage).run text).finish = .error error) (hcategory : error.category ≠ .eof)
    (hlast : ∀ c, text.getLast? = some c → ¬ IsNumberChar c) :
    ((State.at stage).run text).IsRefused error.category := by
  cases hrun : (State.at stage).run text with
  | «at» stage' =>
      rw [hrun] at h
      exact Stage.isRefused_of_finish h hcategory
  | number scan slot =>
      -- the reader starts outside of numbers, so there is a last character, one of a number
      rcases List.eq_nil_or_concat text with rfl | ⟨start, c, rfl⟩
      · cases hrun
      · rw [List.concat_eq_append] at hrun hlast
        have hnumber := (State.at stage).endsWith_run start c
        rw [hrun] at hnumber
        exact absurd hnumber (hlast c List.getLast?_concat)

end State

end SqlFilter.Json

namespace SqlFilter

open Json

/-- **A refused document is not mended by more text.** A document that is refused because it is not
well formed, or because something in it does not fit its place, and that does not end with a
character of numbers, is refused for a reason of the same kind whatever is appended to it. -/
theorem Expr.ofJson_append_of_refused (document : String) (error : Json.Error)
    (h : Expr.ofJson document = .error error)
    (hcategory : error.category = .syntactic ∨ error.category = .data)
    (hlast : ∀ c, document.toList.getLast? = some c → ¬ IsNumberChar c) (more : String) :
    ∃ error', Expr.ofJson (document ++ more) = .error error' ∧
      error'.category = error.category := by
  have hne : error.category ≠ .eof := by
    rcases hcategory with hkind | hkind <;> rw [hkind] <;> exact Category.noConfusion
  have hrefused := State.isRefused_run h hne hlast
  rw [ofJson, State.read, String.toList_append, State.run_append]
  exact (hrefused.run more.toList).finish

/-- A comma behind the last field is refused at once, and with the closing bracket as well. -/
theorem Expr.ofJson_append_of_refused_comma :
    Expr.ofJson "[\"and\",\"absent\",\"absent\"," = .error (.malformed .trailingText) ∧
    ∃ error', Expr.ofJson ("[\"and\",\"absent\",\"absent\"," ++ "]") = .error error' ∧
      error'.category = .syntactic := by
  have hrefused : Expr.ofJson "[\"and\",\"absent\",\"absent\"," =
      .error (.malformed .trailingText) := rfl
  refine ⟨hrefused, ofJson_append_of_refused _ _ hrefused (.inl rfl) ?_ "]"⟩
  intro c hc
  obtain rfl := Option.some.inj hc
  decide

/-- A number that is walked over is refused where it is cut short, and can still go on. -/
example : Expr.ofJson "\x7b\"x\":-" = .error (.malformed .number) ∧
    Expr.ofJson "\x7b\"x\":-1,\"op\":\"not\"\x7d" = .ok (.node .not .absent .absent) :=
  ⟨rfl, rfl⟩

end SqlFilter
