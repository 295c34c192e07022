import SqlFilter.Proofs.Sql.Dialects
import SqlFilter.Proofs.Sql.RangeText

set_option autoImplicit false

/-! # Which trees have a text

Whether a tree is rendered under a dialect can be told without rendering it, as long as a range node
has a boundary on its right: each node has to be plain (`Expr.IsPlain`), whatever its own text may
be. A node that succeeds is plain and a node that fails is not, so the criterion follows from the
first failure of the walk.
-/

namespace SqlFilter

/-- Nothing at the node itself keeps it from being rendered: SQL has a counterpart of its operator,
and the boundary of a range can be told from its text. -/
def Expr.IsPlain (n : Expr) : Prop :=
  ¬ n.op.IsForeign ∧ ∀ b, n.op = .range → n.right = .range b → ¬ b.IsMalformed

/-- A range node has a boundary on its right. -/
def Expr.HasBoundary (n : Expr) : Prop :=
  n.op = .range → ∃ b, n.right = .range b

namespace Boundary

theorem ofText?_text_eq_none_iff (b : Boundary) : ofText? b.text = none ↔ b.IsMalformed := by
  constructor
  · intro hnone
    by_contra hwell
    rw [ofText?_text_of_not_isMalformed hwell] at hnone
    cases hnone
  · exact ofText?_text_of_isMalformed

/-- What is read off the text of a boundary is the boundary with its bounds trimmed. -/
theorem eq_trimmed_of_ofText?_text {b boundary : Boundary} (h : ofText? b.text = some boundary) :
    boundary = b.trimmed := by
  have hwell : ¬ b.IsMalformed := by
    rw [← ofText?_text_eq_none_iff, h]
    exact Option.some_ne_none boundary
  rw [ofText?_text_of_not_isMalformed hwell] at h
  exact (Option.some.inj h).symm

end Boundary

namespace Dialect

variable (dialect : Dialect)

/-- A node that succeeds is plain. -/
theorem isPlain_of_succeedsAt {n : Expr} (h : dialect.table.SucceedsAt n) : n.IsPlain := by
  obtain ⟨rule, l, r, sql, hrule, -, hright, happly⟩ := h
  have hclose : ∀ e, (dialect.table.close n.op l r).outcome ≠ .error e := by
    intro e
    rw [Table.outcome_close_some _ hrule, happly]
    exact fun heq => nomatch heq
  constructor
  · intro hforeign
    exact hclose _ (outcome_close_of_isForeign dialect hforeign l r)
  · intro b hop hb hmalformed
    rw [hb, Table.renderOperand_range] at hright
    obtain rfl := Except.ok.inj hright
    have hread := (Boundary.ofText?_text_eq_none_iff b).mpr hmalformed
    exact hclose _ ((outcome_close_eq_error_iff dialect n.op l b.text _).mpr
      (.inr ⟨hop, hread, rfl⟩))

/-- A node that fails by itself is not plain, if it has a boundary where it needs one. -/
theorem not_isPlain_of_failsAt {n : Expr} {e : RenderError} (hboundary : n.HasBoundary)
    (h : dialect.table.FailsAt n e) : ¬ n.IsPlain := by
  rintro ⟨hforeign, hplain⟩
  rcases failsAt_cases dialect h with ⟨hop, -⟩ | ⟨hop, text, hright, hread, -⟩
  · exact hforeign hop
  · obtain ⟨b, hb⟩ := hboundary hop
    rw [hb, Table.renderOperand_range] at hright
    obtain rfl := Except.ok.inj hright
    exact hplain b hop hb ((Boundary.ofText?_text_eq_none_iff b).mp hread)

theorem render_ok_iff_isPlain (tree : Expr) (hboundary : ∀ n ∈ tree.nodes, n.HasBoundary) :
    (∃ sql, dialect.table.render tree = .ok sql) ↔ ∀ n ∈ tree.nodes, n.IsPlain := by
  constructor
  · intro hok n hn
    exact isPlain_of_succeedsAt dialect ((dialect.table.render_ok_iff tree).mp hok n hn)
  · intro hplain
    cases hrender : dialect.table.render tree with
    | ok sql => exact ⟨sql, rfl⟩
    | error e =>
        obtain ⟨before, n, after, hnodes, -, hfail⟩ :=
          (dialect.table.render_error_iff tree e).mp hrender
        have hn : n ∈ tree.nodes := by
          rw [hnodes]
          exact List.mem_append_right before List.mem_cons_self
        exact absurd (hplain n hn) (not_isPlain_of_failsAt dialect (hboundary n hn) hfail)

/-- **Which trees have a text.** Where every range node has a boundary on its right, a tree has a
text under a dialect exactly when none of its nodes, wherever it stands, is fuzzy or boosted, and no
bound of a range node holds the separator or is blank. -/
theorem render_ok_iff_static (tree : Expr)
    (hboundary : ∀ n ∈ tree.nodes, n.op = .range → ∃ b, n.right = .range b) :
    (∃ sql, dialect.table.render tree = .ok sql) ↔
      (∀ n ∈ tree.nodes, n.op ≠ .fuzzy ∧ n.op ≠ .boost) ∧
      (∀ n ∈ tree.nodes, ∀ b, n.op = .range → n.right = .range b →
        ¬ Boundary.HasSeparator b.min.toList ∧ ¬ Boundary.HasSeparator b.max.toList ∧
          Text.trim b.min.toList ≠ [] ∧ Text.trim b.max.toList ≠ []) := by
  rw [render_ok_iff_isPlain dialect tree hboundary]
  simp only [Expr.IsPlain, Operator.IsForeign, Boundary.IsMalformed, not_or, forall_and, Ne]

/-- A fuzzy term in the list that a requirement drops keeps the tree from having a text, although
the range beside it is well formed. -/
theorem render_ok_iff_static_dropped :
    (∀ n ∈ (Expr.node .must (.expr (.range .absent (.closed "1," "[9")))
        (.list [.fuzzy "b" 1])).nodes, n.op = .range → ∃ b, n.right = .range b) ∧
    ¬ ∃ sql, postgres.table.render (.node .must (.expr (.range .absent (.closed "1," "[9")))
        (.list [.fuzzy "b" 1])) = .ok sql := by
  have hboundary : ∀ n ∈ (Expr.node .must (.expr (.range .absent (.closed "1," "[9")))
      (.list [.fuzzy "b" 1])).nodes, n.op = .range → ∃ b, n.right = .range b := by
    simp [Expr.nodes, Operand.nodes, Expr.nodesAll, Expr.range, Expr.fuzzy]
  refine ⟨hboundary, fun hok => ?_⟩
  have hfuzzy := ((render_ok_iff_static postgres _ hboundary).mp hok).1 (.fuzzy "b" 1)
    (by simp [Expr.nodes, Operand.nodes, Expr.nodesAll, Expr.fuzzy])
  exact hfuzzy.1 rfl

end Dialect

end SqlFilter
