import SqlFilter.Operator
import SqlFilter.Numeric.Binary64

set_option autoImplicit false

/-! # Query trees

A query tree is a node with an operator and two operands. An operand is absent, a nested tree, a
list of trees, a range boundary, a column or a scalar. The types `Expr` and `Operand` are mutually
recursive; functions on them come in threes, for a tree, an operand and a list of trees.
-/

namespace SqlFilter

/-- A column, by its name. -/
structure Column where
  name : String
  deriving DecidableEq, Repr

/-- A constant. The two integer kinds are apart: signed 64-bit and unsigned 64-bit. -/
inductive Scalar where
  | bool (value : Bool)
  | int (value : Int64)
  | uint (value : UInt64)
  | float (value : Binary64)
  | string (value : String)
  deriving DecidableEq

/-- An interval whose two bounds both belong to it or both do not. The bounds are texts of the
query; `*` stands for an open end. -/
structure Boundary where
  min : String
  max : String
  inclusive : Bool
  deriving DecidableEq, Repr

mutual

/-- A node of a query tree, with the tree below it. -/
inductive Expr where
  | node (op : Operator) (left right : Operand)

/-- One side of a node. -/
inductive Operand where
  | absent
  | expr (tree : Expr)
  | list (items : List Expr)
  | range (boundary : Boundary)
  | column (column : Column)
  | value (scalar : Scalar)

end

namespace Boundary

/-- The interval that holds its bounds. -/
def closed (min max : String) : Boundary :=
  ⟨min, max, true⟩

/-- The interval that does not hold its bounds. -/
def strict (min max : String) : Boundary :=
  ⟨min, max, false⟩

end Boundary

namespace Operand

/-- Whether nothing stands on this side. -/
def isAbsent : Operand → Bool
  | .absent => true
  | _ => false

end Operand

namespace Expr

/-- The operator of the root. -/
def op : Expr → Operator
  | .node op _ _ => op

/-- The left operand of the root. -/
def left : Expr → Operand
  | .node _ left _ => left

/-- The right operand of the root. -/
def right : Expr → Operand
  | .node _ _ right => right

@[simp] theorem op_node (op : Operator) (l r : Operand) : (Expr.node op l r).op = op := rfl

@[simp] theorem left_node (op : Operator) (l r : Operand) : (Expr.node op l r).left = l := rfl

@[simp] theorem right_node (op : Operator) (l r : Operand) : (Expr.node op l r).right = r := rfl

@[simp] theorem node_eta (e : Expr) : Expr.node e.op e.left e.right = e := by
  cases e; rfl

/-- A node whose right side is absent. -/
def unary (op : Operator) (operand : Operand) : Expr :=
  .node op operand .absent

end Expr

/-! ## Depth -/

mutual

/-- The number of levels of nodes: a node counts one more than the deepest tree below it. -/
def Expr.depth : Expr → Nat
  | .node _ left right => 1 + max left.depth right.depth

/-- The depth of the deepest tree in an operand, `0` when it holds no tree. -/
def Operand.depth : Operand → Nat
  | .expr tree => tree.depth
  | .list items => Expr.depths items
  | .absent | .range _ | .column _ | .value _ => 0

/-- The greatest depth in a list of trees, `0` for the empty list. -/
def Expr.depths : List Expr → Nat
  | [] => 0
  | item :: rest => max item.depth (Expr.depths rest)

end

end SqlFilter
