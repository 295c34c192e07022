import SqlFilter.Query.Basic

set_option autoImplicit false

/-! # Comparison of query trees

Two trees are the same when they have the same shape, the same operators and the same constants.
Constants compare as numbers do: not-a-number differs from itself and the two zeros are equal. The
two integer kinds stay apart, whatever the value.
-/

namespace SqlFilter

/-- Whether two constants are the same. -/
def Scalar.same : Scalar → Scalar → Bool
  | .bool a, .bool b => a == b
  | .int a, .int b => a == b
  | .uint a, .uint b => a == b
  | .float a, .float b => a.same b
  | .string a, .string b => a == b
  | _, _ => false

mutual

/-- Whether two trees are the same. -/
def Expr.same : Expr → Expr → Bool
  | .node op left right, .node op' left' right' =>
    op == op' && left.same left' && right.same right'

/-- Whether two operands are the same. -/
def Operand.same : Operand → Operand → Bool
  | .absent, .absent => true
  | .expr tree, .expr tree' => tree.same tree'
  | .list items, .list items' => Expr.sameAll items items'
  | .range boundary, .range boundary' => boundary == boundary'
  | .column column, .column column' => column == column'
  | .value scalar, .value scalar' => scalar.same scalar'
  | _, _ => false

/-- Whether two lists of trees are the same, item by item. -/
def Expr.sameAll : List Expr → List Expr → Bool
  | [], [] => true
  | item :: rest, item' :: rest' => item.same item' && Expr.sameAll rest rest'
  | _, _ => false

end

end SqlFilter
