import SqlFilter.Json.Error
import SqlFilter.Query.Basic

set_option autoImplicit false

/-! # Structures in the making

A node and a range boundary are structures of three fields each. A structure is written as an
object, its members in any order, or as a list of its fields in their fixed order. Drafts hold the
fields that have been read so far.
-/

namespace SqlFilter.Json

/-- The two ways of writing a structure; also the two kinds of brackets. -/
inductive Form where
  | object
  | array
  deriving DecidableEq, Repr

/-- One of the two operands of a node. -/
inductive Side where
  | left
  | right
  deriving DecidableEq, Repr

/-! ## Nodes -/

/-- The fields of a node. -/
inductive NodeField where
  | op
  | side (side : Side)
  deriving DecidableEq, Repr

namespace NodeField

/-- The name of a field. -/
def name : NodeField → String
  | .op => "op"
  | .side .left => "left"
  | .side .right => "right"

/-- The field of a name. -/
def ofName? (name : String) : Option NodeField :=
  [NodeField.op, .side .left, .side .right].find? (·.name == name)

theorem ofName?_name (field : NodeField) : ofName? field.name = some field := by
  rcases field with _ | side
  · rfl
  · cases side <;> rfl

/-- The field that follows in a list. -/
def next? : NodeField → Option NodeField
  | .op => some (.side .left)
  | .side .left => some (.side .right)
  | .side .right => none

end NodeField

/-- The fields of a node that have been read. -/
structure NodeDraft where
  op : Option Operator
  left : Option Operand
  right : Option Operand

namespace NodeDraft

/-- The draft without fields. -/
def empty : NodeDraft :=
  ⟨none, none, none⟩

/-- Whether a field has been read. -/
def has (d : NodeDraft) : NodeField → Bool
  | .op => d.op.isSome
  | .side .left => d.left.isSome
  | .side .right => d.right.isSome

/-- The draft with its operator. -/
def setOp (d : NodeDraft) (op : Operator) : NodeDraft :=
  { d with op := some op }

/-- The draft with one of its sides. -/
def setSide (d : NodeDraft) (side : Side) (operand : Operand) : NodeDraft :=
  match side with
  | .left => { d with left := some operand }
  | .right => { d with right := some operand }

/-- The node, if the draft has its operator; a side that was not read is absent. -/
def expr? (d : NodeDraft) : Option Expr :=
  d.op.map fun op => .node op (d.left.getD .absent) (d.right.getD .absent)

end NodeDraft

/-! ## Range boundaries -/

/-- One of the two bounds. -/
inductive Bound where
  | min
  | max
  deriving DecidableEq, Repr

/-- The fields of a range boundary. -/
inductive BoundaryField where
  | bound (bound : Bound)
  | inclusive
  deriving DecidableEq, Repr

namespace BoundaryField

/-- The name of a field. -/
def name : BoundaryField → String
  | .bound .min => "min"
  | .bound .max => "max"
  | .inclusive => "inclusive"

/-- The field of a name. -/
def ofName? (name : String) : Option BoundaryField :=
  [BoundaryField.bound .min, .bound .max, .inclusive].find? (·.name == name)

theorem ofName?_name (field : BoundaryField) : ofName? field.name = some field := by
  rcases field with bound | _
  · cases bound <;> rfl
  · rfl

/-- The field that follows in a list. -/
def next? : BoundaryField → Option BoundaryField
  | .bound .min => some (.bound .max)
  | .bound .max => some .inclusive
  | .inclusive => none

end BoundaryField

/-- The fields of a range boundary that have been read. -/
structure BoundaryDraft where
  min : Option String
  max : Option String
  inclusive : Option Bool
  deriving DecidableEq, Repr

namespace BoundaryDraft

/-- The draft without fields. -/
def empty : BoundaryDraft :=
  ⟨none, none, none⟩

/-- Whether a field has been read. -/
def has (d : BoundaryDraft) : BoundaryField → Bool
  | .bound .min => d.min.isSome
  | .bound .max => d.max.isSome
  | .inclusive => d.inclusive.isSome

/-- The draft with one of its bounds. -/
def setBound (d : BoundaryDraft) (bound : Bound) (text : String) : BoundaryDraft :=
  match bound with
  | .min => { d with min := some text }
  | .max => { d with max := some text }

/-- The draft with the mark that says whether the bounds belong to the interval. -/
def setInclusive (d : BoundaryDraft) (inclusive : Bool) : BoundaryDraft :=
  { d with inclusive := some inclusive }

/-- The boundary, or its first missing field and the number of fields before that one. -/
def boundary? (d : BoundaryDraft) : Except (Nat × BoundaryField) Boundary :=
  match d.min, d.max, d.inclusive with
  | none, _, _ => .error (0, .bound .min)
  | some _, none, _ => .error (1, .bound .max)
  | some _, some _, none => .error (2, .inclusive)
  | some min, some max, some inclusive => .ok ⟨min, max, inclusive⟩

end BoundaryDraft

/-! ## Operands -/

/-- The kinds of operands. -/
inductive OperandKind where
  | absent
  | expr
  | list
  | range
  | column
  | value
  deriving DecidableEq, Repr

namespace OperandKind

/-- The kinds in their fixed order. -/
def all : List OperandKind :=
  [.absent, .expr, .list, .range, .column, .value]

/-- The name of a kind. -/
def name : OperandKind → String
  | .absent => "absent"
  | .expr => "expr"
  | .list => "list"
  | .range => "range"
  | .column => "column"
  | .value => "value"

/-- The kind of a name. -/
def ofName? (name : String) : Option OperandKind :=
  all.find? (·.name == name)

theorem ofName?_name (kind : OperandKind) : ofName? kind.name = some kind := by
  cases kind <;> rfl

end OperandKind

end SqlFilter.Json
