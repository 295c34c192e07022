import SqlFilter.Sql.RangeText

set_option autoImplicit false

/-! # Rendering rules

A rule makes the SQL text of a node from the texts of its two operands. Rendering fails in one of
four ways: an operator has no rule, its rule says that the dialect has no counterpart of it, a range
boundary is not well formed, or a rule supplied from outside fails with words of its own.
-/

namespace SqlFilter

/-- Why a tree has no SQL text. -/
inductive RenderError where
  | unsupported (op : Operator)
  | untranslatable (op : Operator)
  | malformedRange (boundary : String)
  | other (reason : String)
  deriving DecidableEq, Repr

/-- The words for an error. -/
def RenderError.message : RenderError → String
  | .unsupported op => "unable to render operator [" ++ op.name ++ "]"
  | .untranslatable op => "operator [" ++ op.name ++ "] cannot be translated in this dialect"
  | .malformedRange boundary => "malformed range boundary: " ++ boundary
  | .other reason => "Other error: " ++ reason

/-- How one operator is rendered. -/
inductive Rule where
  /-- the left operand as it is -/
  | literal
  /-- the left operand as it is, for an operator that SQL has no counterpart of -/
  | pass
  /-- both operands around a keyword, without parentheses -/
  | join (keyword : String)
  /-- a keyword and the operand in parentheses: the right one if there is one, else the left -/
  | wrap (keyword : String)
  /-- the condition that the left operand lies within the boundary written on the right -/
  | range
  /-- membership of the left operand in the list on the right -/
  | member
  /-- the left operand, a list joined already -/
  | list
  /-- nothing: the dialect has no counterpart of the operator -/
  | untranslatable (op : Operator)
  /-- a function supplied from outside -/
  | custom (render : String → String → Except RenderError String)

namespace Rule

/-- The text of a node from the texts of its operands. -/
def apply : Rule → String → String → Except RenderError String
  | .literal, left, _ => .ok left
  | .pass, left, _ => .ok left
  | .list, left, _ => .ok left
  | .join keyword, left, right => .ok (left ++ " " ++ keyword ++ " " ++ right)
  | .wrap keyword, left, right =>
    .ok (keyword ++ "(" ++ (if right.isEmpty then left else right) ++ ")")
  | .range, left, right =>
    match Boundary.ofText? right with
    | some boundary => .ok (boundary.condition left)
    | none => .error (.malformedRange right)
  | .member, left, right => .ok (left ++ " IN (" ++ right ++ ")")
  | .untranslatable op, _, _ => .error (.untranslatable op)
  | .custom render, left, right => render left right

end Rule

end SqlFilter
