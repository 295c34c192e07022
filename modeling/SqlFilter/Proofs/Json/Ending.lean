import SqlFilter.Proofs.Json.Pieces

set_option autoImplicit false

/-! # Where a document ends

A document that holds a tree ends with the bracket or brace that closes it, so the reader knows the
end when it comes: a number at the end of a text never is the whole document
(`Stage.isInner_step`). A document is accepted exactly if the reader is behind its closing bracket
at the end (`Expr.ofJson_eq_ok_iff`), and there it takes white space and nothing else
(`run_finished`).
-/

namespace SqlFilter.Json

variable {ρ : Type}

/-! ## Numbers do not end a document

Whatever the reader puts together, the only place at which a constant is the whole document is the
one that it has been started with. -/

/-- The place is none for a constant that is the whole document. -/
def Slot.IsInner : Slot ρ → Prop
  | .scalar (.document _) => False
  | _ => True

/-- The place for a value is none for a constant that is the whole document. -/
def Spot.IsInner : Spot ρ → Prop
  | .choice _ => True
  | .slot place => place.IsInner

/-- The string is no constant that is the whole document. -/
def TextUse.IsInner : TextUse ρ → Prop
  | .value slot => slot.IsInner
  | _ => True

/-- The value that is being read or comes next is no constant that is the whole document. -/
def Stage.IsInner : Stage ρ → Prop
  | .expecting spot | .colon spot => spot.IsInner
  | .word _ _ _ slot => slot.IsInner
  | .text _ use => use.IsInner
  | .closing next => next.IsInner
  | .failed _ | .finished _ | .variant _ | .inside .. => True

/-- The value that is being read or comes next is no constant that is the whole document. -/
def State.IsInner : State ρ → Prop
  | .at stage => stage.IsInner
  | .number _ slot => slot.IsInner

/-! ### Filling holes -/

theorem NodeField.isInner_filled (field : NodeField) (form : Form) (draft : NodeDraft)
    (hole : ExprHole ρ) : (field.filled form draft hole).IsInner := by
  cases form <;> exact True.intro

theorem BoundaryField.isInner_filled (field : BoundaryField) (form : Form) (draft : BoundaryDraft)
    (hole : BoundaryHole ρ) : (field.filled form draft hole).IsInner := by
  cases form <;> exact True.intro

theorem OperandHole.isInner_fill (hole : OperandHole ρ) (operand : Operand) :
    (hole.fill operand).IsInner := by
  cases hole with
  | document finish => exact True.intro
  | side which form draft node => exact NodeField.isInner_filled _ form _ node

theorem ExprHole.isInner_fill (hole : ExprHole ρ) (tree : Expr) : (hole.fill tree).IsInner := by
  cases hole with
  | document finish => exact True.intro
  | inner operand => exact operand.isInner_fill (.expr tree)
  | item before operand => exact True.intro

theorem OperatorHole.isInner_fill (hole : OperatorHole ρ) (op : Operator) :
    (hole.fill op).IsInner := by
  cases hole with
  | document finish => exact True.intro
  | op form draft node => exact NodeField.isInner_filled .op form _ node

theorem BoundaryHole.isInner_fill (hole : BoundaryHole ρ) (boundary : Boundary) :
    (hole.fill boundary).IsInner := by
  cases hole with
  | document finish => exact True.intro
  | operand operand => exact operand.isInner_fill (.range boundary)

theorem TextHole.isInner_fill (hole : TextHole ρ) (text : String) : (hole.fill text).IsInner := by
  cases hole with
  | document finish => exact True.intro
  | column operand => exact operand.isInner_fill (.column ⟨text⟩)
  | bound which form draft boundary => exact BoundaryField.isInner_filled _ form _ boundary

theorem ScalarHole.isInner_fill (hole : ScalarHole ρ) (scalar : Scalar) :
    (hole.fill scalar).IsInner := by
  cases hole with
  | document finish => exact True.intro
  | value operand => exact operand.isInner_fill (.value scalar)

theorem UnitHole.isInner_fill (hole : UnitHole ρ) : hole.fill.IsInner := by
  cases hole with
  | operator op hole => exact hole.isInner_fill op
  | absent operand => exact operand.isInner_fill .absent

theorem Passage.isInner_passed (passage : Passage ρ) (outer : List Form) :
    (passage.passed outer).IsInner := by
  cases outer with
  | nil => cases passage <;> exact True.intro
  | cons form outer => exact True.intro

theorem Slot.isInner_accept (slot : Slot ρ) (atom : Atom) : (slot.accept atom).IsInner := by
  cases slot with
  | node hole => exact True.intro
  | boundary hole => exact True.intro
  | items operand => exact True.intro
  | passing outer passage => exact passage.isInner_passed outer
  | text hole =>
      rcases atom with _ | _ | _ | _ | _ | text
      case scalar.string => exact hole.isInner_fill text
      all_goals exact True.intro
  | flag hole =>
      rcases atom with _ | value | _ | _ | _ | _
      case scalar.bool => exact BoundaryField.isInner_filled _ _ _ _
      all_goals exact True.intro
  | unit hole =>
      cases atom with
      | null => exact hole.isInner_fill
      | scalar value => exact True.intro
  | scalar hole =>
      cases atom with
      | null => exact True.intro
      | scalar value => exact hole.isInner_fill value

theorem Slot.isInner_acceptNumber (slot : Slot ρ) (scan : NumberScan) :
    (slot.acceptNumber scan).IsInner := by
  unfold acceptNumber
  split
  · exact slot.isInner_accept _
  · split
    · exact True.intro
    · exact slot.isInner_accept _

/-! ### Names, keys and brackets -/

theorem Choice.isInner_bare (choice : Choice ρ) (name : String) : (choice.bare name).IsInner := by
  cases choice with
  | operator hole =>
      rw [bare]
      split
      · exact hole.isInner_fill _
      · exact True.intro
  | operand hole =>
      rw [bare]
      split
      · exact hole.isInner_fill .absent
      · exact True.intro
      · exact True.intro

theorem Choice.isInner_named (choice : Choice ρ) (name : String) :
    (choice.named name).IsInner := by
  cases choice with
  | operator hole =>
      rw [named]
      split
      · exact True.intro
      · exact True.intro
  | operand hole =>
      rw [named]
      split
      -- a constant has its place inside the operand
      · next kind _ => cases kind <;> exact True.intro
      · exact True.intro

theorem NodeField.isInner_spot (field : NodeField) (form : Form) (draft : NodeDraft)
    (hole : ExprHole ρ) : (field.spot form draft hole).IsInner := by
  cases field <;> exact True.intro

theorem BoundaryField.isInner_spot (field : BoundaryField) (form : Form) (draft : BoundaryDraft)
    (hole : BoundaryHole ρ) : (field.spot form draft hole).IsInner := by
  cases field <;> exact True.intro

theorem NodeDraft.isInner_key (draft : NodeDraft) (hole : ExprHole ρ) (name : String) :
    (draft.key hole name).IsInner := by
  unfold key
  split
  · exact True.intro
  · split
    · exact True.intro
    · exact NodeField.isInner_spot _ _ _ hole

theorem BoundaryDraft.isInner_key (draft : BoundaryDraft) (hole : BoundaryHole ρ) (name : String) :
    (draft.key hole name).IsInner := by
  unfold key
  split
  · exact True.intro
  · split
    · exact True.intro
    · exact BoundaryField.isInner_spot _ _ _ hole

theorem TextUse.isInner_finish (use : TextUse ρ) (text : String) : (use.finish text).IsInner := by
  cases use with
  | bare choice => exact choice.isInner_bare text
  | variant choice => exact choice.isInner_named text
  | value slot => exact slot.isInner_accept _
  | nodeKey draft hole => exact draft.isInner_key hole text
  | boundaryKey draft hole => exact draft.isInner_key hole text
  | passingKey outer passage => exact True.intro

theorem Stage.isInner_nested (depth : Nat) {stage : Stage ρ} (h : stage.IsInner) :
    (stage.nested depth).IsInner := by
  unfold nested
  split
  · exact h
  · exact True.intro

theorem Slot.isInner_opened (slot : Slot ρ) (form : Form) : (slot.opened form).IsInner := by
  cases slot with
  | node hole => cases form <;> exact Stage.isInner_nested _ True.intro
  | boundary hole => cases form <;> exact Stage.isInner_nested _ True.intro
  | items operand =>
      cases form with
      | object => exact True.intro
      | array => exact Stage.isInner_nested _ True.intro
  | text hole => exact True.intro
  | flag hole => exact True.intro
  | unit hole => exact True.intro
  | scalar hole => exact Stage.isInner_nested _ True.intro
  | passing outer passage =>
      cases passage with
      | scalar hole => exact Stage.isInner_nested _ True.intro
      | node draft hole => exact True.intro
      | boundary draft hole => exact True.intro

theorem Open.isInner_close (bracket : Open ρ) : bracket.close.IsInner := by
  cases bracket with
  | node draft hole =>
      rw [close]
      split
      · exact hole.isInner_fill _
      · exact True.intro
  | nodeList next draft hole =>
      rw [close]
      split
      · exact hole.isInner_fill _
      · exact True.intro
  | boundary draft hole =>
      rw [close]
      split
      · exact hole.isInner_fill _
      · exact True.intro
  | boundaryList next draft hole =>
      rw [close]
      split
      · exact hole.isInner_fill _
      · exact True.intro
  | items before operand => exact operand.isInner_fill _
  | passing form outer passage => exact passage.isInner_passed outer

theorem Open.isInner_item {bracket : Open ρ} {spot : Spot ρ} (h : bracket.item? = some spot) :
    spot.IsInner := by
  cases bracket with
  | node draft hole => cases h
  | boundary draft hole => cases h
  | nodeList next draft hole =>
      obtain ⟨field, -, rfl⟩ := Option.map_eq_some_iff.mp h
      exact field.isInner_spot _ draft hole
  | boundaryList next draft hole =>
      obtain ⟨field, -, rfl⟩ := Option.map_eq_some_iff.mp h
      exact field.isInner_spot _ draft hole
  | items before operand =>
      obtain rfl := Option.some.inj h
      exact True.intro
  | passing form outer passage =>
      obtain rfl := Option.some.inj h
      exact True.intro

theorem Open.isInner_key (bracket : Open ρ) : bracket.key.IsInner := by
  cases bracket <;> exact True.intro

/-! ### One character -/

theorem Slot.isInner_begin {slot : Slot ρ} (h : slot.IsInner) (c : Char) :
    (slot.begin c).IsInner := by
  unfold begin
  split
  · exact h
  split
  · exact slot.isInner_opened .array
  split
  · exact slot.isInner_opened .object
  split
  · exact h
  split
  · exact h
  split
  · exact h
  split
  · exact h
  · exact True.intro

theorem Spot.isInner_begin {spot : Spot ρ} (h : spot.IsInner) (c : Char) :
    (spot.begin c).IsInner := by
  cases spot with
  | choice names =>
      rw [begin]
      split
      · exact True.intro
      split
      · exact Stage.isInner_nested names.depth True.intro
      · exact True.intro
  | slot place => exact Slot.isInner_begin h c

theorem Open.isInner_stepObject (bracket : Open ρ) (phase : Phase) (c : Char) :
    (bracket.stepObject phase c).IsInner := by
  cases phase with
  | first =>
      rw [stepObject]
      split
      · exact bracket.isInner_key
      split
      · exact bracket.isInner_close
      · exact True.intro
  | after =>
      rw [stepObject]
      split
      · exact True.intro
      split
      · exact bracket.isInner_close
      · exact True.intro
  | next =>
      rw [stepObject]
      split
      · exact bracket.isInner_key
      split
      · exact True.intro
      · exact True.intro

theorem Open.isInner_stepArray (bracket : Open ρ) (phase : Phase) (c : Char) :
    (bracket.stepArray phase c).IsInner := by
  unfold stepArray
  split
  · next spot hspot =>
      split
      · exact bracket.isInner_close
      · exact Spot.isInner_begin (isInner_item hspot) c
  · split
    · exact bracket.isInner_close
    · exact True.intro
  · split
    · exact True.intro
    split
    · exact bracket.isInner_close
    · exact True.intro
  · split
    · exact True.intro
    split
    · next spot hspot => exact Spot.isInner_begin (isInner_item hspot) c
    · exact True.intro

theorem Stage.isInner_stepSolid {stage : Stage ρ} (h : stage.IsInner) (c : Char) :
    (stage.stepSolid c).IsInner := by
  cases stage with
  | failed error => exact True.intro
  | finished result => exact True.intro
  | expecting spot => exact Spot.isInner_begin h c
  | word next rest atom slot => exact h
  | text scan use => exact h
  | colon spot =>
      rw [stepSolid]
      split
      · exact h
      · exact True.intro
  | variant choice =>
      rw [stepSolid]
      split
      · exact True.intro
      split
      · exact True.intro
      · exact True.intro
  | inside phase bracket =>
      rw [stepSolid]
      split
      · exact bracket.isInner_stepObject phase c
      · exact bracket.isInner_stepArray phase c
  | closing next =>
      rw [stepSolid]
      split
      · exact h
      · exact True.intro

theorem Stage.isInner_step {stage : Stage ρ} (h : stage.IsInner) (c : Char) :
    (stage.step c).IsInner := by
  -- outside of words and strings white space is passed over
  have hsolid : (if isSpace c then State.at stage else stage.stepSolid c).IsInner := by
    split
    · exact h
    · exact isInner_stepSolid h c
  cases stage with
  | failed error => exact True.intro
  | word next rest atom slot =>
      simp only [step]
      split
      · cases rest with
        | nil => exact slot.isInner_accept atom
        | cons next rest => exact h
      · exact True.intro
  | text scan use =>
      rw [step]
      split
      · exact h
      · exact use.isInner_finish _
      · exact True.intro
  | finished result => exact hsolid
  | expecting spot => exact hsolid
  | colon spot => exact hsolid
  | variant choice => exact hsolid
  | inside phase bracket => exact hsolid
  | closing next => exact hsolid

namespace State

theorem isInner_step {state : State ρ} (h : state.IsInner) (c : Char) :
    (state.step c).IsInner := by
  cases state with
  | «at» stage => exact Stage.isInner_step h c
  | number scan slot =>
      rw [step]
      split
      · exact h
      · exact Stage.isInner_step (slot.isInner_acceptNumber scan) c
      · exact True.intro

theorem isInner_run {state : State ρ} (h : state.IsInner) (text : List Char) :
    (state.run text).IsInner := by
  induction text generalizing state with
  | nil => exact h
  | cons c text ih => exact ih (isInner_step h c)

end State

/-! ## The end of a document -/

theorem Passage.finish_passed (passage : Passage ρ) (outer : List Form) (result : ρ) :
    (passage.passed outer).finish ≠ .ok result := by
  cases outer with
  | nil => cases passage <;> simp [passed, Stage.misfit, Stage.finish]
  | cons form outer => simp [passed, Stage.finish]

/-- A number inside a document does not complete it. -/
theorem Slot.finish_acceptNumber {slot : Slot ρ} (h : slot.IsInner) (scan : NumberScan)
    (result : ρ) : (slot.acceptNumber scan).finish ≠ .ok result := by
  intro hfinish
  unfold acceptNumber at hfinish
  split at hfinish
  · next value hvalue =>
      cases slot with
      | node hole => cases hfinish
      | boundary hole => cases hfinish
      | items operand => cases hfinish
      | unit hole => cases hfinish
      | text hole =>
          -- a number is no string and no truth value
          rcases NumberScan.scalar?_cases hvalue with ⟨n, rfl⟩ | ⟨n, rfl, -⟩ | ⟨negative, x, rfl⟩
          all_goals cases hfinish
      | flag hole =>
          rcases NumberScan.scalar?_cases hvalue with ⟨n, rfl⟩ | ⟨n, rfl, -⟩ | ⟨negative, x, rfl⟩
          all_goals cases hfinish
      | scalar hole =>
          cases hole with
          | document finish => exact h.elim
          | value operand => cases hfinish
      | passing outer passage => exact passage.finish_passed outer result hfinish
  · split at hfinish
    · cases hfinish
    · next hchecked =>
        -- only what is walked over is not checked
        cases slot with
        | passing outer passage => exact passage.finish_passed outer result hfinish
        | _ => exact absurd rfl hchecked

/-- At the end of a document something is missing inside brackets, unless a comma stands behind the
last field of a list of fields. -/
theorem Open.unfinished_cases (bracket : Open ρ) (phase : Phase) :
    (∃ place, bracket.unfinished phase = .unfinished place) ∨
    (phase = .next ∧ bracket.form = .array ∧ bracket.item? = none ∧
      bracket.unfinished phase = .malformed .trailingText) := by
  unfold unfinished
  cases hform : bracket.form with
  | object => cases phase <;> exact .inl ⟨_, rfl⟩
  | array =>
      cases phase with
      | first => exact .inl ⟨_, rfl⟩
      | after => exact .inl ⟨_, rfl⟩
      | next =>
          cases hitem : bracket.item? with
          | some spot => exact .inl ⟨_, rfl⟩
          | none => exact .inr ⟨rfl, rfl, rfl, rfl⟩

/-- A document is complete behind its last bracket or brace. -/
theorem State.finish_eq_ok_iff {state : State ρ} (h : state.IsInner) {result : ρ} :
    state.finish = .ok result ↔ state = .at (.finished result) := by
  constructor
  · intro hfinish
    cases state with
    | «at» stage =>
        cases stage <;> cases hfinish
        rfl
    | number scan slot =>
        rw [finish] at hfinish
        split at hfinish
        · exact absurd hfinish (Slot.finish_acceptNumber h scan result)
        · split at hfinish <;> cases hfinish
  · rintro rfl
    rfl

/-- Behind a complete document white space may stand, and nothing else. -/
theorem run_finished (result : ρ) (text : List Char) :
    (State.at (.finished result)).run text =
      if IsBlank text then .at (.finished result) else .at (.malformed .trailingText) := by
  induction text with
  | nil => rfl
  | cons c text ih =>
      by_cases hspace : isSpace c = true
      · have hstep : (State.at (.finished result)).step c = .at (.finished result) := if_pos hspace
        have hblank : IsBlank (c :: text) ↔ IsBlank text := by simp [IsBlank, hspace]
        rw [State.run_cons, hstep, ih]
        simp only [hblank]
      · have hstep : (State.at (.finished result)).step c = .at (.malformed .trailingText) :=
          if_neg hspace
        have hblank : ¬ IsBlank (c :: text) := by simp [IsBlank, hspace]
        -- the first other character is an error, and the first error is the answer
        rw [State.run_cons, hstep, if_neg hblank]
        exact State.run_failed _ text

end SqlFilter.Json

namespace SqlFilter

open Json

/-! ## Documents that hold a tree -/

/-- A document is accepted exactly if it has been read to the end of a tree. -/
theorem Expr.ofJson_eq_ok_iff {document : String} {e : Expr} :
    Expr.ofJson document = .ok e ↔
      (State.before (.slot (.node (.document id)))).run document.toList = .at (.finished e) := by
  have hbefore : (State.before (.slot (.node (.document (id : Expr → Expr))))).IsInner := True.intro
  exact State.finish_eq_ok_iff (State.isInner_run hbefore document.toList)

/-- What follows a tree must be white space. -/
theorem Expr.ofJson_append {document more : String} {e : Expr}
    (h : Expr.ofJson document = .ok e) (e' : Expr) :
    Expr.ofJson (document ++ more) = .ok e' ↔ IsBlank more.toList ∧ e' = e := by
  rw [ofJson_eq_ok_iff] at h ⊢
  rw [String.toList_append, State.run_append, h, run_finished]
  split
  · next hblank => simp [hblank, eq_comm]
  · next hblank => simp [hblank, Stage.malformed]

end SqlFilter
