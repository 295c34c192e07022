import SqlFilter.Json.Draft
import SqlFilter.Json.Text

set_option autoImplicit false

/-! # Where the reader is

A hole is a place in a document at which a value is missing: the value that is asked for, and what
surrounds it as far as it has been read. There is a type of holes for each kind of value, so a hole
can be filled with nothing else. The outermost hole is the document itself, and says what to make
of its value. `depth` counts the brackets and braces open around a hole.
-/

namespace SqlFilter.Json

mutual

/-- A place for a tree. -/
inductive ExprHole (ρ : Type) where
  | document (finish : Expr → ρ)
  /-- the content of an operand -/
  | inner (operand : OperandHole ρ)
  /-- an item of a list, after the items before it, the last one first -/
  | item (before : List Expr) (operand : OperandHole ρ)

/-- A place for an operand. -/
inductive OperandHole (ρ : Type) where
  | document (finish : Operand → ρ)
  /-- a side of a node of which some fields have been read -/
  | side (side : Side) (form : Form) (draft : NodeDraft) (node : ExprHole ρ)

end

/-- A place for an operator. -/
inductive OperatorHole (ρ : Type) where
  | document (finish : Operator → ρ)
  | op (form : Form) (draft : NodeDraft) (node : ExprHole ρ)

/-- A place for a range boundary. -/
inductive BoundaryHole (ρ : Type) where
  | document (finish : Boundary → ρ)
  | operand (operand : OperandHole ρ)

/-- A place for a text. -/
inductive TextHole (ρ : Type) where
  | document (finish : String → ρ)
  | column (operand : OperandHole ρ)
  | bound (bound : Bound) (form : Form) (draft : BoundaryDraft) (boundary : BoundaryHole ρ)

/-- A place for the truth value of a range boundary. -/
structure FlagHole (ρ : Type) where
  form : Form
  draft : BoundaryDraft
  boundary : BoundaryHole ρ

/-- A place for a constant. -/
inductive ScalarHole (ρ : Type) where
  | document (finish : Scalar → ρ)
  | value (operand : OperandHole ρ)

/-- A place for the content of a name that has none. -/
inductive UnitHole (ρ : Type) where
  | operator (op : Operator) (hole : OperatorHole ρ)
  | absent (operand : OperandHole ρ)

/-- Why a value is only walked over: it is no constant where one has to stand, which is an error at
its end, or it belongs to a member without meaning. -/
inductive Passage (ρ : Type) where
  | scalar (hole : ScalarHole ρ)
  | node (draft : NodeDraft) (hole : ExprHole ρ)
  | boundary (draft : BoundaryDraft) (hole : BoundaryHole ρ)

/-- A place for one of a set of names, alone or with a content. -/
inductive Choice (ρ : Type) where
  | operator (hole : OperatorHole ρ)
  | operand (hole : OperandHole ρ)

/-- A place for a value that is not chosen by name. -/
inductive Slot (ρ : Type) where
  | node (hole : ExprHole ρ)
  | boundary (hole : BoundaryHole ρ)
  /-- the list of an operand -/
  | items (operand : OperandHole ρ)
  | text (hole : TextHole ρ)
  | flag (hole : FlagHole ρ)
  | unit (hole : UnitHole ρ)
  | scalar (hole : ScalarHole ρ)
  /-- a value that is walked over, inside the given brackets of such a value -/
  | passing (outer : List Form) (passage : Passage ρ)

/-- A place for a value. -/
inductive Spot (ρ : Type) where
  | choice (choice : Choice ρ)
  | slot (slot : Slot ρ)

/-- An open bracket or brace. -/
inductive Open (ρ : Type) where
  /-- the members of a node -/
  | node (draft : NodeDraft) (hole : ExprHole ρ)
  /-- the fields of a node in a list, with the one that may come next -/
  | nodeList (next : Option NodeField) (draft : NodeDraft) (hole : ExprHole ρ)
  /-- the members of a range boundary -/
  | boundary (draft : BoundaryDraft) (hole : BoundaryHole ρ)
  /-- the fields of a range boundary in a list, with the one that comes next -/
  | boundaryList (next : Option BoundaryField) (draft : BoundaryDraft) (hole : BoundaryHole ρ)
  /-- the list of an operand, with the items so far, the last one first -/
  | items (before : List Expr) (operand : OperandHole ρ)
  /-- a value that is walked over -/
  | passing (form : Form) (outer : List Form) (passage : Passage ρ)

/-- What a string stands for. -/
inductive TextUse (ρ : Type) where
  /-- a name without a content -/
  | bare (choice : Choice ρ)
  /-- a name with a content -/
  | variant (choice : Choice ρ)
  /-- a value -/
  | value (slot : Slot ρ)
  /-- a key of a node -/
  | nodeKey (draft : NodeDraft) (hole : ExprHole ρ)
  /-- a key of a range boundary -/
  | boundaryKey (draft : BoundaryDraft) (hole : BoundaryHole ρ)
  /-- a key in a value that is walked over -/
  | passingKey (outer : List Form) (passage : Passage ρ)

/-! ## Depth -/

mutual

/-- The number of brackets and braces around a place for a tree. -/
def ExprHole.depth {ρ : Type} : ExprHole ρ → Nat
  | .document _ => 0
  | .inner hole => hole.depth + 1
  | .item _ hole => hole.depth + 2

/-- The number of brackets and braces around a place for an operand. -/
def OperandHole.depth {ρ : Type} : OperandHole ρ → Nat
  | .document _ => 0
  | .side _ _ _ node => node.depth + 1

end

/-- The number of brackets and braces around a place for an operator. -/
def OperatorHole.depth {ρ : Type} : OperatorHole ρ → Nat
  | .document _ => 0
  | .op _ _ node => node.depth + 1

/-- The number of brackets and braces around a place for a range boundary. -/
def BoundaryHole.depth {ρ : Type} : BoundaryHole ρ → Nat
  | .document _ => 0
  | .operand hole => hole.depth + 1

/-- The number of brackets and braces around a place for a constant. -/
def ScalarHole.depth {ρ : Type} : ScalarHole ρ → Nat
  | .document _ => 0
  | .value hole => hole.depth + 1

/-- The number of brackets and braces around a place for a name. -/
def Choice.depth {ρ : Type} : Choice ρ → Nat
  | .operator hole => hole.depth
  | .operand hole => hole.depth

/-! ## What is checked

A value of a member without meaning is only skimmed: its nesting is not limited, its numbers may be
of any size and its surrogates need no partners. -/

/-- Whether a value that is walked over is held to the rules of values that count. -/
def Passage.isChecked {ρ : Type} : Passage ρ → Bool
  | .scalar _ => true
  | .node .. | .boundary .. => false

/-- Whether a value is held to the rules of values that count. -/
def Slot.isChecked {ρ : Type} : Slot ρ → Bool
  | .passing _ passage => passage.isChecked
  | _ => true

/-- Whether a string is held to the rules of strings that count. -/
def TextUse.isChecked {ρ : Type} : TextUse ρ → Bool
  | .value slot => slot.isChecked
  | .passingKey _ passage => passage.isChecked
  | .bare _ | .variant _ | .nodeKey .. | .boundaryKey .. => true

end SqlFilter.Json
