import SqlFilter.Query.Build
import SqlFilter.Proofs.Sql.Standard
import Mathlib.Logic.Relation

set_option autoImplicit false

/-! # Nodes that pass their operand through

Five operators leave no trace in the SQL text of a node with nothing on its right: the node has the
text of its left operand, or fails with it. Exclusion is written as negation. `Expr.Rewrites` leaves
out such a node or exchanges the two operators at one place of a tree, however deep, and
`Table.IsStandard.render_of_rewrites` says that nothing can tell: a node sees only the texts of its
operands, so what holds at the place holds of every node around it.
-/

namespace SqlFilter

/-! ## Rewriting at one place -/

mutual

/-- One rewrite somewhere in a tree. -/
inductive Expr.Rewrites : Expr → Expr → Prop where
  /-- a node gives way to the tree that it passes through -/
  | passing {op : Operator} (hop : op.IsPassing) (inner : Expr) :
      Expr.Rewrites (.unary op (.expr inner)) inner
  /-- an exclusion becomes a negation -/
  | negate (left right : Operand) :
      Expr.Rewrites (.node .mustNot left right) (.node .not left right)
  /-- a negation becomes an exclusion -/
  | exclude (left right : Operand) :
      Expr.Rewrites (.node .not left right) (.node .mustNot left right)
  | left {op : Operator} {left left' : Operand} (h : left.Rewrites left') (right : Operand) :
      Expr.Rewrites (.node op left right) (.node op left' right)
  | right {op : Operator} {right right' : Operand} (left : Operand) (h : right.Rewrites right') :
      Expr.Rewrites (.node op left right) (.node op left right')

/-- One rewrite somewhere in an operand. -/
inductive Operand.Rewrites : Operand → Operand → Prop where
  /-- a node gives way to whatever it passes through -/
  | passing {op : Operator} (hop : op.IsPassing) (operand : Operand) :
      Operand.Rewrites (.expr (.unary op operand)) operand
  | expr {tree tree' : Expr} (h : tree.Rewrites tree') :
      Operand.Rewrites (.expr tree) (.expr tree')
  | item (before : List Expr) {tree tree' : Expr} (h : tree.Rewrites tree') (after : List Expr) :
      Operand.Rewrites (.list (before ++ tree :: after)) (.list (before ++ tree' :: after))

end

/-! ## What a node sees of its operands -/

namespace Table

variable {table : Table}

/-- A node sees only the texts of its operands. -/
theorem render_node_congr {left left' right right' : Operand} (op : Operator)
    (hleft : table.renderOperand left = table.renderOperand left')
    (hright : table.renderOperand right = table.renderOperand right') :
    table.render (.node op left right) = table.render (.node op left' right') := by
  rw [render_node, render_node, hleft, hright]

/-- A list sees only the texts of its items. -/
theorem renderAll_congr {tree tree' : Expr} (h : table.render tree = table.render tree')
    (before after : List Expr) :
    table.renderAll (before ++ tree :: after) = table.renderAll (before ++ tree' :: after) := by
  induction before with
  | nil => rw [List.nil_append, List.nil_append, renderAll_cons, renderAll_cons, h]
  | cons item before ih =>
      rw [List.cons_append, List.cons_append, renderAll_cons, renderAll_cons, ih]

namespace IsStandard

variable (htable : table.IsStandard)

include htable

/-- A node that passes its operand through has the outcome of the operand. -/
theorem render_unary_of_isPassing {op : Operator} (hop : op.IsPassing) (operand : Operand) :
    table.render (.unary op operand) = table.renderOperand operand := by
  obtain ⟨rule, hrule, happly⟩ := htable.rule?_of_isPassing hop
  rw [Expr.unary, render_node, renderOperand_absent]
  cases table.renderOperand operand with
  | error e => rfl
  | ok text =>
      show (table.close op text "").outcome = .ok text
      rw [outcome_close_some table hrule, happly]

/-- Exclusion has the rule of negation. -/
theorem render_mustNot (left right : Operand) :
    table.render (.node .mustNot left right) = table.render (.node .not left right) := by
  have hmustNot : table.rule? .mustNot = shared.rule? .mustNot :=
    htable.rule?_eq (by decide) (by decide)
  have hnot : table.rule? .not = shared.rule? .not := htable.rule?_eq (by decide) (by decide)
  have hclose : ∀ l r, (table.close .mustNot l r).outcome = (table.close .not l r).outcome := by
    intro l r
    rw [outcome_close_some table hmustNot, outcome_close_some table hnot]
  rw [render_node, render_node]
  simp only [hclose]

/-! ## Rewriting does not show -/

-- By induction on the place of the rewrite.

mutual

/-- One rewrite somewhere in a tree does not change its outcome. -/
theorem render_of_rewrites : ∀ {tree tree' : Expr}, tree.Rewrites tree' →
    table.render tree = table.render tree'
  | _, _, .passing hop _ => by rw [htable.render_unary_of_isPassing hop, renderOperand_expr]
  | _, _, .negate left right => htable.render_mustNot left right
  | _, _, .exclude left right => (htable.render_mustNot left right).symm
  | _, _, .left h _ => render_node_congr _ (renderOperand_of_rewrites h) rfl
  | _, _, .right _ h => render_node_congr _ rfl (renderOperand_of_rewrites h)

/-- One rewrite somewhere in an operand does not change its outcome. -/
theorem renderOperand_of_rewrites : ∀ {operand operand' : Operand}, operand.Rewrites operand' →
    table.renderOperand operand = table.renderOperand operand'
  | _, _, .passing hop _ => by rw [renderOperand_expr, htable.render_unary_of_isPassing hop]
  | _, _, .expr h => by rw [renderOperand_expr, renderOperand_expr, render_of_rewrites h]
  | _, _, .item before h after => by
      rw [renderOperand_list, renderOperand_list,
        renderAll_congr (render_of_rewrites h) before after]

end

end IsStandard

/-- **Nodes that pass their operand through are invisible, and exclusion is negation.** A standard
table gives a tree the same text, or the same error, after any number of rewrites, each at any
place: leaving out a node that passes its operand through, or exchanging exclusion and negation. -/
theorem render_of_rewriting (table : Table) (htable : table.IsStandard) (tree tree' : Expr)
    (h : Relation.ReflTransGen Expr.Rewrites tree tree') :
    table.render tree = table.render tree' := by
  induction h with
  | refl => rfl
  | tail _ hstep ih => rw [ih, htable.render_of_rewrites hstep]

/-- The list node and the requirement inside an excluded item are left out, and the exclusion becomes
a negation; the malformed range stays the answer. -/
theorem render_of_rewriting_list :
    Relation.ReflTransGen Expr.Rewrites
      (.inList (.column ⟨"n"⟩) [.mustNot (.must (.column "a")),
        .range .absent (.strict "1" "")])
      (.node .inList (.column ⟨"n"⟩) (.list [.not (.column "a"),
        .range .absent (.strict "1" "")])) ∧
    Dialect.postgres.table.render
      (.inList (.column ⟨"n"⟩) [.mustNot (.must (.column "a")),
        .range .absent (.strict "1" "")]) = .error (.malformedRange "(1, )") := by
  have hlist : Expr.Rewrites
      (.inList (.column ⟨"n"⟩) [.mustNot (.must (.column "a")), .range .absent (.strict "1" "")])
      (.node .inList (.column ⟨"n"⟩)
        (.list [.mustNot (.must (.column "a")), .range .absent (.strict "1" "")])) :=
    .right _ (.passing (by decide) _)
  have hmust : Expr.Rewrites
      (.node .inList (.column ⟨"n"⟩)
        (.list [.mustNot (.must (.column "a")), .range .absent (.strict "1" "")]))
      (.node .inList (.column ⟨"n"⟩)
        (.list [.mustNot (.column "a"), .range .absent (.strict "1" "")])) :=
    .right _ (.item [] (.left (.expr (.passing (by decide) _)) _) _)
  have hnot : Expr.Rewrites
      (.node .inList (.column ⟨"n"⟩)
        (.list [.mustNot (.column "a"), .range .absent (.strict "1" "")]))
      (.node .inList (.column ⟨"n"⟩)
        (.list [.not (.column "a"), .range .absent (.strict "1" "")])) :=
    .right _ (.item [] (.negate _ _) _)
  have hall := ((Relation.ReflTransGen.single hlist).tail hmust).tail hnot
  refine ⟨hall, ?_⟩
  rw [render_of_rewriting _ (isStandard_dialect .postgres) _ _ hall]
  rfl

end Table

end SqlFilter
