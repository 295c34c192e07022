import SqlFilter.Proofs.Json.Grammar

set_option autoImplicit false

/-! # The texts of a tree

A tree has many texts. At every node one may choose anew: an object whose members come in any order,
with members between them that have no meaning, or a list of the fields; an operator by its name or
as the single member of an object; an absent side left out or written in one of two ways; raw
characters or escapes; any white space between two tokens. `Expr.Presents room` is the relation
between a tree and its texts with at most `room` brackets and braces inside one another, not counting
those inside members without meaning.
-/

namespace SqlFilter

open Json

/-- The operand on one side of a tree. -/
def Expr.side (e : Expr) : Side → Operand
  | .left => e.left
  | .right => e.right

/-- The bound of a range boundary. -/
def Boundary.bound (b : Boundary) : Bound → String
  | .min => b.min
  | .max => b.max

namespace Json

/-- The text is an object with a single member. -/
def IsVariant (name : String) (value text : List Char) : Prop :=
  ∃ member, IsMember name value member ∧ Encloses .object [member] text

/-- The text is the word `null`. -/
def IsNull (text : List Char) : Prop :=
  Spaced "null".toList text

/-- The text is a truth value. -/
def IsFlag (value : Bool) (text : List Char) : Prop :=
  Spaced (if value then "true".toList else "false".toList) text

end Json

/-- The text presents the operator. -/
inductive Operator.Presents : Nat → Operator → List Char → Prop where
  | bare {room : Nat} {op : Operator} {text : List Char} (htext : IsName op.jsonName text) :
      Operator.Presents room op text
  | content {room : Nat} {op : Operator} {value text : List Char} (hvalue : IsNull value)
      (htext : IsVariant op.jsonName value text) : Operator.Presents (room + 1) op text

/-- The text presents the constant. -/
inductive Scalar.Presents : Scalar → List Char → Prop where
  | bool {value : Bool} {text : List Char} (htext : IsFlag value text) :
      Scalar.Presents (.bool value) text
  | number {s : Scalar} {text : List Char} {form : NumberForm} (hform : form.Denotes s)
      (htext : Spaced form.text text) : Scalar.Presents s text
  | string {value : String} {text : List Char} (htext : IsName value text) :
      Scalar.Presents (.string value) text

/-- The text is a member of the object of a range boundary: one of its fields, or a member without
meaning. -/
inductive Boundary.PresentsMember (b : Boundary) : Option BoundaryField → List Char → Prop where
  | bound {which : Bound} {value text : List Char} (hvalue : IsName (b.bound which) value)
      (htext : IsMember (BoundaryField.bound which).name value text) :
      PresentsMember b (some (.bound which)) text
  | inclusive {value text : List Char} (hvalue : IsFlag b.inclusive value)
      (htext : IsMember BoundaryField.inclusive.name value text) :
      PresentsMember b (some .inclusive) text
  | unknown {name : String} {value text : List Char} (hname : BoundaryField.ofName? name = none)
      (hvalue : IsJson value) (htext : IsMember name value text) : PresentsMember b none text

/-- The text presents the range boundary. -/
inductive Boundary.Presents : Nat → Boundary → List Char → Prop where
  | object {room : Nat} {b : Boundary} {members : List (Option BoundaryField × List Char)}
      {text : List Char} (hmembers : ∀ m ∈ members, b.PresentsMember m.1 m.2)
      (hnodup : (members.filterMap Prod.fst).Nodup)
      (hall : ∀ field, field ∈ members.filterMap Prod.fst)
      (htext : Encloses .object (members.map Prod.snd) text) :
      Boundary.Presents (room + 1) b text
  | list {room : Nat} {b : Boundary} {min max inclusive text : List Char}
      (hmin : IsName b.min min) (hmax : IsName b.max max)
      (hinclusive : IsFlag b.inclusive inclusive)
      (htext : Encloses .array [min, max, inclusive] text) : Boundary.Presents (room + 1) b text

mutual

/-- The text presents the tree, with at most as many brackets and braces inside one another as there
is room for. -/
inductive Expr.Presents : Nat → Expr → List Char → Prop where
  /-- the members in any order, each field once and its operator among them -/
  | object {room : Nat} {e : Expr} {members : List (Option NodeField × List Char)}
      {text : List Char} (hmembers : ∀ m ∈ members, Expr.PresentsMember room e m.1 m.2)
      (hnodup : (members.filterMap Prod.fst).Nodup) (hop : .op ∈ members.filterMap Prod.fst)
      (hsides : ∀ which, .side which ∈ members.filterMap Prod.fst ∨ e.side which = .absent)
      (htext : Encloses .object (members.map Prod.snd) text) : Expr.Presents (room + 1) e text
  | list {room : Nat} {e : Expr} {op left right text : List Char} (hop : e.op.Presents room op)
      (hleft : Operand.Presents room e.left left) (hright : Operand.Presents room e.right right)
      (htext : Encloses .array [op, left, right] text) : Expr.Presents (room + 1) e text
  /-- an absent right side may be left out at the end of a list -/
  | listWithoutRight {room : Nat} {e : Expr} {op left text : List Char}
      (hop : e.op.Presents room op) (hleft : Operand.Presents room e.left left)
      (hright : e.right = .absent) (htext : Encloses .array [op, left] text) :
      Expr.Presents (room + 1) e text
  /-- and so may two absent sides -/
  | listOfOperator {room : Nat} {e : Expr} {op text : List Char} (hop : e.op.Presents room op)
      (hleft : e.left = .absent) (hright : e.right = .absent) (htext : Encloses .array [op] text) :
      Expr.Presents (room + 1) e text

/-- The text is a member of the object of a tree: one of its fields, or a member without meaning. -/
inductive Expr.PresentsMember : Nat → Expr → Option NodeField → List Char → Prop where
  | op {room : Nat} {e : Expr} {value text : List Char} (hvalue : e.op.Presents room value)
      (htext : IsMember NodeField.op.name value text) :
      Expr.PresentsMember room e (some .op) text
  | side {room : Nat} {e : Expr} {which : Side} {value text : List Char}
      (hvalue : Operand.Presents room (e.side which) value)
      (htext : IsMember (NodeField.side which).name value text) :
      Expr.PresentsMember room e (some (.side which)) text
  | unknown {room : Nat} {e : Expr} {name : String} {value text : List Char}
      (hname : NodeField.ofName? name = none) (hvalue : IsJson value)
      (htext : IsMember name value text) : Expr.PresentsMember room e none text

/-- The text presents the operand. -/
inductive Operand.Presents : Nat → Operand → List Char → Prop where
  | absent {room : Nat} {text : List Char} (htext : IsName "absent" text) :
      Operand.Presents room .absent text
  | absentContent {room : Nat} {value text : List Char} (hvalue : IsNull value)
      (htext : IsVariant "absent" value text) : Operand.Presents (room + 1) .absent text
  | expr {room : Nat} {tree : Expr} {value text : List Char}
      (hvalue : Expr.Presents room tree value) (htext : IsVariant "expr" value text) :
      Operand.Presents (room + 1) (.expr tree) text
  | list {room : Nat} {items : List Expr} {texts : List (List Char)} {value text : List Char}
      (hitems : Expr.PresentsAll room items texts) (hvalue : Encloses .array texts value)
      (htext : IsVariant "list" value text) : Operand.Presents (room + 2) (.list items) text
  | range {room : Nat} {boundary : Boundary} {value text : List Char}
      (hvalue : boundary.Presents room value) (htext : IsVariant "range" value text) :
      Operand.Presents (room + 1) (.range boundary) text
  | column {room : Nat} {column : Column} {value text : List Char}
      (hvalue : IsName column.name value) (htext : IsVariant "column" value text) :
      Operand.Presents (room + 1) (.column column) text
  | value {room : Nat} {scalar : Scalar} {value text : List Char}
      (hvalue : scalar.Presents value) (htext : IsVariant "value" value text) :
      Operand.Presents (room + 1) (.value scalar) text

/-- The texts present the trees, one by one. -/
inductive Expr.PresentsAll : Nat → List Expr → List (List Char) → Prop where
  | nil {room : Nat} : Expr.PresentsAll room [] []
  | cons {room : Nat} {item : Expr} {rest : List Expr} {text : List Char}
      {texts : List (List Char)} (hitem : Expr.Presents room item text)
      (hrest : Expr.PresentsAll room rest texts) :
      Expr.PresentsAll room (item :: rest) (text :: texts)

end

/-- The document presents the tree, within the limit of nesting; white space may follow the text of
the tree. -/
def Expr.PresentedBy (e : Expr) (document : String) : Prop :=
  ∃ text space, e.Presents nestingLimit text ∧ IsBlank space ∧ document.toList = text ++ space

end SqlFilter
