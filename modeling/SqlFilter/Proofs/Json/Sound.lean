import SqlFilter.Json.Reader
import SqlFilter.Proofs.Json.Canonical

set_option autoImplicit false

/-! # Sound places in a document

A hole is sound when the trees that have been read around it are canonical and fit the places where
they stand, and when the result is good as soon as something that fits is put in. `ExprHole.Sound`
and the definitions after it say so for every kind of place, down to the states of the reader.
Nothing is asked of a state that can only end in an error.

Filling a sound hole with what fits leads to a sound stage: one lemma for each kind of hole.
-/

namespace SqlFilter.Json

variable {ρ : Type}

/-! ## The invariant -/

/-- The sides of a node that have been read fit inside `depth` brackets and braces. -/
structure NodeDraft.Fits (depth : Nat) (draft : NodeDraft) : Prop where
  left : ∀ operand, draft.left = some operand → operand.Fits depth
  right : ∀ operand, draft.right = some operand → operand.Fits depth

mutual

/-- What stands around a place for a tree fits, and a tree that fits gives a good result. -/
def ExprHole.Sound (good : ρ → Prop) : ExprHole ρ → Prop
  | .document finish => ∀ tree : Expr, tree.Fits 0 → good (finish tree)
  | .inner operand => operand.Sound good ∧ operand.depth < nestingLimit
  | .item before operand =>
    operand.Sound good ∧ operand.depth + 1 < nestingLimit ∧
      ∀ tree ∈ before, tree.Fits (operand.depth + 2)

/-- What stands around a place for an operand fits, and an operand that fits gives a good result. -/
def OperandHole.Sound (good : ρ → Prop) : OperandHole ρ → Prop
  | .document finish => ∀ operand : Operand, operand.Fits 0 → good (finish operand)
  | .side _ _ draft node =>
    node.Sound good ∧ node.depth < nestingLimit ∧ draft.Fits (node.depth + 1)

end

variable (good : ρ → Prop)

/-- A place inside the braces of an operand is sound. -/
def OperandHole.Inside (hole : OperandHole ρ) : Prop :=
  hole.Sound good ∧ hole.depth < nestingLimit

/-- A place inside a node is sound. -/
def NodeDraft.Sound (draft : NodeDraft) (hole : ExprHole ρ) : Prop :=
  hole.Sound good ∧ hole.depth < nestingLimit ∧ draft.Fits (hole.depth + 1)

/-- A place for an operator is sound. -/
def OperatorHole.Sound : OperatorHole ρ → Prop
  | .document finish => ∀ op, good (finish op)
  | .op _ draft node => draft.Sound good node

/-- A place for a range boundary is sound. -/
def BoundaryHole.Sound : BoundaryHole ρ → Prop
  | .document finish => ∀ boundary, good (finish boundary)
  | .operand hole => hole.Inside good

/-- A place inside a range boundary is sound. -/
def BoundaryHole.Inside (hole : BoundaryHole ρ) : Prop :=
  hole.Sound good ∧ hole.depth < nestingLimit

/-- A place for a text is sound. -/
def TextHole.Sound : TextHole ρ → Prop
  | .document finish => ∀ text, good (finish text)
  | .column operand => operand.Inside good
  | .bound _ _ _ boundary => boundary.Inside good

/-- A place for a constant is sound. -/
def ScalarHole.Sound : ScalarHole ρ → Prop
  | .document finish => ∀ scalar : Scalar, scalar.IsCanonical → good (finish scalar)
  | .value operand => operand.Inside good

/-- A place for the content of a name that has none is sound. -/
def UnitHole.Sound : UnitHole ρ → Prop
  | .operator _ hole => hole.Sound good
  | .absent operand => operand.Sound good

/-- What stands around a value that is walked over is sound. Where that value is an error anyway,
nothing has to be. -/
def Passage.Sound : Passage ρ → Prop
  | .scalar _ => True
  | .node draft hole => draft.Sound good hole
  | .boundary _ hole => hole.Inside good

/-- A place for one of a set of names is sound. -/
def Choice.Sound : Choice ρ → Prop
  | .operator hole => hole.Sound good
  | .operand hole => hole.Sound good

/-- A place for one of a set of names is sound, inside the braces of such a name. -/
def Choice.Inside (choice : Choice ρ) : Prop :=
  choice.Sound good ∧ choice.depth < nestingLimit

/-- A place for a value that is not chosen by name is sound. -/
def Slot.Sound : Slot ρ → Prop
  | .node hole => hole.Sound good
  | .boundary hole => hole.Sound good
  | .items operand => operand.Sound good
  | .text hole => hole.Sound good
  | .flag hole => hole.boundary.Inside good
  | .unit hole => hole.Sound good
  | .scalar hole => hole.Sound good
  | .passing _ passage => passage.Sound good

/-- A place for a value is sound. -/
def Spot.Sound : Spot ρ → Prop
  | .choice names => names.Sound good
  | .slot place => place.Sound good

/-- What stands inside and around an open bracket or brace is sound. -/
def Open.Sound : Open ρ → Prop
  | .node draft hole | .nodeList _ draft hole => draft.Sound good hole
  | .boundary _ hole | .boundaryList _ _ hole => hole.Inside good
  | .items before operand => (ExprHole.item before operand).Sound good
  | .passing _ _ passage => passage.Sound good

/-- The place of a string is sound. -/
def TextUse.Sound : TextUse ρ → Prop
  | .bare choice => choice.Sound good
  | .variant choice => choice.Inside good
  | .value slot => slot.Sound good
  | .nodeKey draft hole => draft.Sound good hole
  | .boundaryKey _ hole => hole.Inside good
  | .passingKey _ passage => passage.Sound good

/-- A value without parts is canonical, if it is a constant. -/
def Atom.IsCanonical : Atom → Prop
  | .null => True
  | .scalar value => value.IsCanonical

/-- A stage is sound: its places are, and its result is good. -/
def Stage.Sound : Stage ρ → Prop
  | .failed _ => True
  | .finished result => good result
  | .expecting spot | .colon spot => spot.Sound good
  | .word _ _ atom slot => atom.IsCanonical ∧ slot.Sound good
  | .text _ use => use.Sound good
  | .variant choice => choice.Inside good
  | .inside _ bracket => bracket.Sound good
  | .closing next => next.Sound

/-- A state is sound. -/
def State.Sound : State ρ → Prop
  | .at stage => stage.Sound good
  | .number _ slot => slot.Sound good

variable {good}

/-! ## Filling holes -/

theorem ExprHole.Sound.depth_le {hole : ExprHole ρ} (h : hole.Sound good) :
    hole.depth ≤ nestingLimit := by
  cases hole with
  | document finish => exact Nat.zero_le _
  | inner operand => exact h.2
  | item before operand => exact h.2.1

theorem OperandHole.Sound.depth_le {hole : OperandHole ρ} (h : hole.Sound good) :
    hole.depth ≤ nestingLimit := by
  cases hole with
  | document finish => exact Nat.zero_le _
  | side which form draft node => exact h.2.1

theorem NodeDraft.fits_empty (depth : Nat) : NodeDraft.empty.Fits depth :=
  ⟨fun _ h => (nomatch h), fun _ h => (nomatch h)⟩

theorem NodeDraft.Fits.setSide {depth : Nat} {draft : NodeDraft} (h : draft.Fits depth)
    (which : Side) {operand : Operand} (hoperand : operand.Fits depth) :
    (draft.setSide which operand).Fits depth := by
  have hside : ∀ other, some operand = some other → other.Fits depth := by
    rintro other heq
    obtain rfl := Option.some.inj heq
    exact hoperand
  cases which with
  | left => exact ⟨hside, h.right⟩
  | right => exact ⟨h.left, hside⟩

theorem NodeField.sound_filled (field : NodeField) (form : Form) {draft : NodeDraft}
    {hole : ExprHole ρ} (h : draft.Sound good hole) :
    (field.filled form draft hole).Sound good := by
  cases form with
  | object => exact h
  | array => exact h

theorem BoundaryField.sound_filled (field : BoundaryField) (form : Form) (draft : BoundaryDraft)
    {hole : BoundaryHole ρ} (h : hole.Inside good) :
    (field.filled form draft hole).Sound good := by
  cases form with
  | object => exact h
  | array => exact h

theorem OperandHole.sound_fill {hole : OperandHole ρ} (h : hole.Sound good) {operand : Operand}
    (hoperand : operand.Fits hole.depth) : (hole.fill operand).Sound good := by
  cases hole with
  | document finish => exact h operand hoperand
  | side which form draft node =>
      exact NodeField.sound_filled _ form ⟨h.1, h.2.1, h.2.2.setSide which hoperand⟩

theorem ExprHole.sound_fill {hole : ExprHole ρ} (h : hole.Sound good) {tree : Expr}
    (htree : tree.Fits hole.depth) : (hole.fill tree).Sound good := by
  cases hole with
  | document finish => exact h tree htree
  | inner operand => exact OperandHole.sound_fill h.1 (Operand.fits_expr htree)
  | item before operand => exact ⟨h.1, h.2.1, List.forall_mem_cons.mpr ⟨htree, h.2.2⟩⟩

theorem OperatorHole.sound_fill {hole : OperatorHole ρ} (h : hole.Sound good) (op : Operator) :
    (hole.fill op).Sound good := by
  cases hole with
  | document finish => exact h op
  | op form draft node =>
      exact NodeField.sound_filled .op form ⟨h.1, h.2.1, h.2.2.left, h.2.2.right⟩

theorem BoundaryHole.sound_fill {hole : BoundaryHole ρ} (h : hole.Inside good)
    (boundary : Boundary) : (hole.fill boundary).Sound good := by
  cases hole with
  | document finish => exact h.1 boundary
  | operand operand => exact OperandHole.sound_fill h.1.1 (Operand.fits_range boundary h.2)

theorem TextHole.sound_fill {hole : TextHole ρ} (h : hole.Sound good) (text : String) :
    (hole.fill text).Sound good := by
  cases hole with
  | document finish => exact h text
  | column operand => exact OperandHole.sound_fill h.1 (Operand.fits_column ⟨text⟩ h.2)
  | bound which form draft boundary => exact BoundaryField.sound_filled _ form _ h

theorem ScalarHole.sound_fill {hole : ScalarHole ρ} (h : hole.Sound good) {scalar : Scalar}
    (hscalar : scalar.IsCanonical) : (hole.fill scalar).Sound good := by
  cases hole with
  | document finish => exact h scalar hscalar
  | value operand => exact OperandHole.sound_fill h.1 (Operand.fits_value hscalar h.2)

theorem UnitHole.sound_fill {hole : UnitHole ρ} (h : hole.Sound good) : hole.fill.Sound good := by
  cases hole with
  | operator op hole => exact OperatorHole.sound_fill h op
  | absent operand => exact OperandHole.sound_fill h (Operand.fits_absent h.depth_le)

theorem Passage.sound_passed {passage : Passage ρ} (h : passage.Sound good) (outer : List Form) :
    (passage.passed outer).Sound good := by
  cases outer with
  | nil =>
      cases passage with
      | scalar hole => exact True.intro
      | node draft hole => exact h
      | boundary draft hole => exact h
  | cons form outer => exact h

/-! ## Values without parts -/

theorem NumberScan.isCanonical_of_scalar? {s : NumberScan} {value : Scalar}
    (h : s.scalar? = some value) : value.IsCanonical := by
  rcases scalar?_cases h with ⟨n, rfl⟩ | ⟨n, rfl, hlarge⟩ | ⟨negative, x, rfl⟩
  · exact True.intro
  · exact hlarge
  · rfl

theorem Slot.sound_accept {slot : Slot ρ} (h : slot.Sound good) {atom : Atom}
    (hatom : atom.IsCanonical) : (slot.accept atom).Sound good := by
  cases slot with
  | node hole => exact True.intro
  | boundary hole => exact True.intro
  | items operand => exact True.intro
  | text hole =>
      rcases atom with _ | _ | _ | _ | _ | text
      case scalar.string => exact TextHole.sound_fill h text
      all_goals exact True.intro
  | flag hole =>
      rcases atom with _ | value | _ | _ | _ | _
      case scalar.bool => exact BoundaryField.sound_filled _ _ _ h
      all_goals exact True.intro
  | unit hole =>
      cases atom with
      | null => exact UnitHole.sound_fill h
      | scalar value => exact True.intro
  | scalar hole =>
      cases atom with
      | null => exact True.intro
      | scalar value => exact ScalarHole.sound_fill h hatom
  | passing outer passage => exact Passage.sound_passed h outer

theorem Slot.sound_acceptNumber {slot : Slot ρ} (h : slot.Sound good) (scan : NumberScan) :
    (slot.acceptNumber scan).Sound good := by
  rw [acceptNumber]
  split
  · next value hvalue => exact sound_accept h (NumberScan.isCanonical_of_scalar? hvalue)
  · split
    · exact True.intro
    · exact sound_accept h True.intro

end SqlFilter.Json
