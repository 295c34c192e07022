import SqlFilter.Query.Basic

set_option autoImplicit false

/-! # Building query trees

One function for each common shape of node, so that a tree reads like the query it stands for.
-/

namespace SqlFilter.Expr

/-- A constant, or anything else, that stands for itself. -/
def literal (operand : Operand) : Expr :=
  .unary .literal operand

/-- A column that stands for itself. -/
def column (name : String) : Expr :=
  .literal (.column ⟨name⟩)

/-- Both conditions hold. -/
def and (left right : Expr) : Expr :=
  .node .and (.expr left) (.expr right)

/-- One of the conditions holds, or both do. -/
def or (left right : Expr) : Expr :=
  .node .or (.expr left) (.expr right)

/-- The condition does not hold. -/
def not (operand : Expr) : Expr :=
  .unary .not (.expr operand)

/-- The condition is required. -/
def must (operand : Expr) : Expr :=
  .unary .must (.expr operand)

/-- The condition is excluded. -/
def mustNot (operand : Expr) : Expr :=
  .unary .mustNot (.expr operand)

/-- The two sides are equal. -/
def eq (left right : Operand) : Expr :=
  .node .equals left right

/-- The left side matches the pattern on the right. -/
def like (left right : Operand) : Expr :=
  .node .like left right

/-- The left side is greater. -/
def gt (left right : Operand) : Expr :=
  .node .greater left right

/-- The left side is greater or equal. -/
def ge (left right : Operand) : Expr :=
  .node .greaterEq left right

/-- The left side is less. -/
def lt (left right : Operand) : Expr :=
  .node .less left right

/-- The left side is less or equal. -/
def le (left right : Operand) : Expr :=
  .node .lessEq left right

/-- The left side lies within the boundary. -/
def range (left : Operand) (boundary : Boundary) : Expr :=
  .node .range left (.range boundary)

/-- A list of trees, in order. -/
def list (items : List Expr) : Expr :=
  .unary .list (.list items)

/-- The left side is one of the items. The items are a list node of their own. -/
def inList (left : Operand) (items : List Expr) : Expr :=
  .node .inList left (.expr (.list items))

/-- A pattern with wildcards. -/
def wild (pattern : String) : Expr :=
  .unary .wild (.value (.string pattern))

/-- A regular expression. -/
def regexp (pattern : String) : Expr :=
  .unary .regexp (.value (.string pattern))

/-- A term within an edit distance. -/
def fuzzy (term : String) (distance : Int64) : Expr :=
  .node .fuzzy (.value (.string term)) (.value (.int distance))

/-- A condition with a weight. -/
def boost (operand : Expr) (power : Binary64) : Expr :=
  .node .boost (.expr operand) (.value (.float power))

end SqlFilter.Expr
