import SqlFilter.Query.Build
import SqlFilter.Proofs.Sql.Standard
import SqlFilter.Proofs.Walk.Sequence

set_option autoImplicit false

/-! # Grouping of joins

Conjunctions and disjunctions are joined without parentheses, so how a tree groups them does not
show in its text. `Joined` is a tree of such joins over leaves of any kind, and `Joined.pieces` are
its leaves and the words between them, from left to right. The outcome of a tree is that of its
pieces, one after another (`Table.IsStandard.render_joined`). This is by induction on the tree: a
join puts the text of its left operand, its word and the text of its right operand behind one
another, and never fails by itself.
-/

namespace SqlFilter

/-! ## Trees of joins -/

/-- The operators that join two conditions. -/
inductive Connective where
  | and
  | or
  deriving DecidableEq, Repr

namespace Connective

/-- The operator of a connective. -/
def op : Connective → Operator
  | .and => .and
  | .or => .or

/-- What is written between the two conditions. -/
def text : Connective → String
  | .and => " AND "
  | .or => " OR "

theorem isInfix_op (connective : Connective) : connective.op.IsInfix := by
  cases connective <;> decide

theorem text_eq (connective : Connective) :
    connective.text = " " ++ connective.op.spelling ++ " " := by
  cases connective <;> rfl

end Connective

/-- A tree of conjunctions and disjunctions. -/
inductive Joined where
  /-- a tree of any kind -/
  | leaf (tree : Expr)
  | join (connective : Connective) (left right : Joined)

/-- A leaf, or a connective between leaves. -/
inductive Piece where
  | leaf (tree : Expr)
  | word (connective : Connective)

namespace Joined

/-- The query tree of a tree of joins. -/
def tree : Joined → Expr
  | .leaf tree => tree
  | .join connective left right => .node connective.op (.expr left.tree) (.expr right.tree)

/-- The leaves and the connectives, from left to right. -/
def pieces : Joined → List Piece
  | .leaf tree => [.leaf tree]
  | .join connective left right => left.pieces ++ .word connective :: right.pieces

end Joined

/-- The text of a piece. -/
def Piece.render (table : Table) : Piece → Except RenderError String
  | .leaf tree => table.render tree
  | .word connective => .ok connective.text

/-! ## The outcome of the pieces -/

/-- Taking the pieces of a join puts the word between what is taken on either side. -/
theorem Piece.mapM_join (table : Table) (connective : Connective) (left right : List Piece) :
    ((left ++ .word connective :: right).mapM (Piece.render table)).map String.join =
      ((left.mapM (Piece.render table)).map String.join).bind fun l =>
        ((right.mapM (Piece.render table)).map String.join).map fun r =>
          l ++ (connective.text ++ r) := by
  rw [List.mapM_append, List.mapM_cons]
  cases left.mapM (Piece.render table) with
  | error e => rfl
  | ok lefts =>
      cases right.mapM (Piece.render table) with
      | error e => rfl
      | ok rights =>
          show Except.ok (String.join (lefts ++ connective.text :: rights)) = _
          rw [String.join_append, String.join_cons]
          rfl

namespace Table

namespace IsStandard

variable {table : Table} (htable : table.IsStandard)

include htable

/-- A join puts its word between the texts of its operands, and never fails by itself. -/
theorem render_connective (connective : Connective) (left right : Expr) :
    table.render (.node connective.op (.expr left) (.expr right)) =
      (table.render left).bind fun l =>
        (table.render right).map fun r => l ++ (connective.text ++ r) := by
  have hclose : ∀ l r, (table.close connective.op l r).outcome =
      .ok (l ++ (connective.text ++ r)) := by
    intro l r
    rw [outcome_close_some table (htable.rule?_of_isInfix connective.isInfix_op), Rule.apply,
      connective.text_eq]
    simp only [String.append_assoc]
  rw [render_node, renderOperand_expr, renderOperand_expr]
  simp only [hclose]
  cases table.render left with
  | error e => rfl
  | ok l => cases table.render right <;> rfl

/-- The outcome of a tree of joins is that of its pieces, one after another. -/
theorem render_joined (t : Joined) :
    table.render t.tree = (t.pieces.mapM (Piece.render table)).map String.join := by
  induction t with
  | leaf tree =>
      rw [Joined.pieces, List.mapM_cons, List.mapM_nil, Joined.tree, Piece.render]
      cases table.render tree with
      | error e => rfl
      | ok text =>
          show Except.ok text = Except.ok (String.join [text])
          rw [String.join_cons, String.join_nil, String.append_empty]
  | join connective left right ihl ihr =>
      rw [Joined.tree, htable.render_connective, ihl, ihr, Joined.pieces, Piece.mapM_join]

end IsStandard

/-- **How joins are grouped does not show.** Under a standard table two trees of conjunctions and
disjunctions with the same leaves and connectives, from left to right, have the same outcome: the
texts of the leaves with the words between them, or else the error of the first leaf that fails. -/
theorem render_regrouped (table : Table) (htable : table.IsStandard) (t t' : Joined)
    (h : t.pieces = t'.pieces) :
    table.render t.tree = table.render t'.tree ∧
    (∀ sql, table.render t.tree = .ok sql ↔
      ∃ texts, List.Forall₂ (fun piece text => piece.render table = .ok text) t.pieces texts ∧
        sql = String.join texts) ∧
    (∀ e, table.render t.tree = .error e ↔
      ∃ before leaf after, t.pieces = before ++ .leaf leaf :: after ∧
        (∀ leaf', .leaf leaf' ∈ before → ∃ text, table.render leaf' = .ok text) ∧
        table.render leaf = .error e) := by
  refine ⟨by rw [htable.render_joined, htable.render_joined, h], fun sql => ?_, fun e => ?_⟩
  · simp only [htable.render_joined, map_eq_ok_iff, mapM_eq_ok_iff]
  · rw [htable.render_joined, map_eq_error_iff, mapM_eq_error_iff]
    constructor
    · rintro ⟨before, piece, after, hpieces, hbefore, hfail⟩
      cases piece with
      | leaf leaf => exact ⟨before, leaf, after, hpieces, fun leaf' hleaf => hbefore _ hleaf, hfail⟩
      | word connective => cases hfail
    · rintro ⟨before, leaf, after, hpieces, hbefore, hfail⟩
      refine ⟨before, .leaf leaf, after, hpieces, fun piece hpiece => ?_, hfail⟩
      cases piece with
      | leaf leaf' => exact hbefore leaf' hpiece
      | word connective => exact ⟨connective.text, rfl⟩

/-- A disjunction under a conjunction, and the other way of grouping the same text. -/
theorem render_regrouped_or :
    (Joined.join .and (.join .or (.leaf (.column "a")) (.leaf (.column "b")))
      (.leaf (.column "c"))).pieces =
      (Joined.join .or (.leaf (.column "a"))
        (.join .and (.leaf (.column "b")) (.leaf (.column "c")))).pieces ∧
    shared.render (.and (.or (.column "a") (.column "b")) (.column "c")) =
      shared.render (.or (.column "a") (.and (.column "b") (.column "c"))) ∧
    shared.render (.or (.column "a") (.and (.column "b") (.column "c"))) =
      .ok "a OR b AND c" := by
  have hsame := (render_regrouped shared isStandard_shared
    (.join .and (.join .or (.leaf (.column "a")) (.leaf (.column "b"))) (.leaf (.column "c")))
    (.join .or (.leaf (.column "a")) (.join .and (.leaf (.column "b")) (.leaf (.column "c"))))
    rfl).1
  exact ⟨rfl, hsame, rfl⟩

end Table

end SqlFilter
