import SqlFilter.Proofs.Sql.Standard

set_option autoImplicit false

/-! # The two dialects

The dialects have the rules of the shared table, and for fuzzy and boosted terms either no rule or
one that always fails. So the last step at a node fails in two ways only
(`Dialect.outcome_close_eq_error_iff`): the operator is one that SQL has no counterpart of, or the
right text of a range node is not that of a boundary. Two tables that fail at the same steps, with
errors that correspond, give outcomes that correspond (`Table.render_mapError`), and the dialects
are such a pair.
-/

namespace SqlFilter

/-! ## One step under a dialect -/

namespace Operator

/-- SQL has no counterpart of the operator. -/
def IsForeign (op : Operator) : Prop :=
  op = .fuzzy ∨ op = .boost

instance (op : Operator) : Decidable op.IsForeign :=
  inferInstanceAs (Decidable (_ ∨ _))

end Operator

namespace Table

/-- The shared table has a rule for every operator that SQL has a counterpart of, and only the rule
of ranges can fail. -/
theorem shared_apply_total {op : Operator} (hforeign : ¬ op.IsForeign) (hrange : op ≠ .range) :
    ∃ rule, shared.rule? op = some rule ∧
      ∀ left right, ∃ sql, rule.apply left right = .ok sql := by
  cases op
  case range => exact absurd rfl hrange
  case fuzzy => exact absurd (.inl rfl) hforeign
  case boost => exact absurd (.inr rfl) hforeign
  all_goals exact ⟨_, rfl, fun left right => ⟨_, rfl⟩⟩

/-- What the last step at a node can fail with, where SQL has a counterpart of its operator. -/
theorem outcome_close_shared_eq_error_iff {op : Operator} (hforeign : ¬ op.IsForeign)
    (left right : String) (e : RenderError) :
    (shared.close op left right).outcome = .error e ↔
      op = .range ∧ Boundary.ofText? right = none ∧ e = .malformedRange right := by
  by_cases hrange : op = .range
  · subst hrange
    have happly : (shared.close .range left right).outcome = Rule.range.apply left right :=
      outcome_close_some shared rfl left right
    rw [happly, Rule.apply]
    cases hread : Boundary.ofText? right with
    | none =>
        constructor
        · intro h
          exact ⟨rfl, rfl, (Except.error.inj h).symm⟩
        · rintro ⟨-, -, rfl⟩
          rfl
    | some boundary => simp
  · obtain ⟨rule, hrule, htotal⟩ := shared_apply_total hforeign hrange
    obtain ⟨sql, happly⟩ := htotal left right
    rw [outcome_close_some shared hrule, happly]
    simp [hrange]

end Table

namespace Dialect

/-- What a dialect says of an operator that SQL has no counterpart of. -/
def refusal : Dialect → Operator → RenderError
  | .base, op => .unsupported op
  | .postgres, op => .untranslatable op

theorem outcome_close_of_isForeign (dialect : Dialect) {op : Operator} (h : op.IsForeign)
    (left right : String) :
    (dialect.table.close op left right).outcome = .error (dialect.refusal op) := by
  rcases h with rfl | rfl
  · cases dialect <;> rfl
  · cases dialect <;> rfl

theorem close_of_not_isForeign (dialect : Dialect) {op : Operator} (h : ¬ op.IsForeign)
    (left right : String) :
    dialect.table.close op left right = Table.shared.close op left right := by
  rw [Operator.IsForeign, not_or] at h
  exact Table.close_congr ((Table.isStandard_dialect dialect).rule?_eq h.1 h.2) left right

/-- What the last step at a node can fail with under a dialect. -/
theorem outcome_close_eq_error_iff (dialect : Dialect) (op : Operator) (left right : String)
    (e : RenderError) :
    (dialect.table.close op left right).outcome = .error e ↔
      (op.IsForeign ∧ e = dialect.refusal op) ∨
        (op = .range ∧ Boundary.ofText? right = none ∧ e = .malformedRange right) := by
  by_cases hforeign : op.IsForeign
  · have hrange : op ≠ .range := by
      rintro rfl
      exact absurd hforeign (by decide)
    rw [outcome_close_of_isForeign dialect hforeign]
    constructor
    · intro h
      exact .inl ⟨hforeign, (Except.error.inj h).symm⟩
    · rintro (⟨-, rfl⟩ | ⟨hop, -⟩)
      · rfl
      · exact absurd hop hrange
  · rw [close_of_not_isForeign dialect hforeign,
      Table.outcome_close_shared_eq_error_iff hforeign]
    simp [hforeign]

/-- What a node can fail with by itself under a dialect. -/
theorem failsAt_cases (dialect : Dialect) {n : Expr} {e : RenderError}
    (h : dialect.table.FailsAt n e) :
    (n.op.IsForeign ∧ e = dialect.refusal n.op) ∨
      (n.op = .range ∧ ∃ text, dialect.table.renderOperand n.right = .ok text ∧
        Boundary.ofText? text = none ∧ e = .malformedRange text) := by
  cases h with
  | @unmapped op left right hrule =>
      -- without a rule the texts of the operands do not matter
      have hclose := Table.outcome_close_none dialect.table hrule "" ""
      rcases (outcome_close_eq_error_iff dialect op "" "" _).mp hclose with hforeign | ⟨-, -, he⟩
      · exact .inl hforeign
      · cases he
  | @applied op left right rule l r e hrule hleft hright happly =>
      have hclose := (Table.outcome_close_some dialect.table hrule l r).trans happly
      rcases (outcome_close_eq_error_iff dialect op l r e).mp hclose with
        hforeign | ⟨hop, hread, he⟩
      · exact .inl hforeign
      · exact .inr ⟨hop, r, hright, hread, he⟩

end Dialect

/-! ## Tables that fail at the same steps -/

theorem mapError_bind {ε ε' α β : Type} (f : ε → ε') (x : Except ε α) (g : α → Except ε β) :
    (x.bind g).mapError f = (x.mapError f).bind fun a => (g a).mapError f := by
  cases x <;> rfl

theorem mapError_map {ε ε' α β : Type} (f : ε → ε') (x : Except ε α) (g : α → β) :
    (x.map g).mapError f = (x.mapError f).map g := by
  cases x <;> rfl

namespace Table

/-- The last steps under two tables have the same texts, and errors that correspond. -/
def Corresponds (table table' : Table) (f : RenderError → RenderError) : Prop :=
  ∀ op left right,
    (table'.close op left right).outcome = (table.close op left right).outcome.mapError f

variable {table table' : Table} {f : RenderError → RenderError}

-- By induction on the tree: the operands come first on both sides, so the first failure is at the
-- same node.

mutual

/-- Where the last steps correspond, so do the outcomes of a tree. -/
theorem render_mapError (h : Corresponds table table' f) : ∀ tree : Expr,
    table'.render tree = (table.render tree).mapError f
  | .node op left right => by
      rw [render_node, render_node, mapError_bind, renderOperand_mapError h left]
      congr 1
      funext l
      rw [mapError_bind, renderOperand_mapError h right]
      congr 1
      funext r
      exact h op l r

theorem renderOperand_mapError (h : Corresponds table table' f) : ∀ operand : Operand,
    table'.renderOperand operand = (table.renderOperand operand).mapError f
  | .expr tree => by
      rw [renderOperand_expr, renderOperand_expr]
      exact render_mapError h tree
  | .list items => by
      rw [renderOperand_list, renderOperand_list, mapError_map, renderAll_mapError h items]
  | .absent => by rw [renderOperand_absent, renderOperand_absent]; rfl
  | .range _ => by rw [renderOperand_range, renderOperand_range]; rfl
  | .column _ => by rw [renderOperand_column, renderOperand_column]; rfl
  | .value _ => by rw [renderOperand_value, renderOperand_value]; rfl

theorem renderAll_mapError (h : Corresponds table table' f) : ∀ items : List Expr,
    table'.renderAll items = (table.renderAll items).mapError f
  | [] => by rw [renderAll_nil, renderAll_nil]; rfl
  | item :: rest => by
      rw [renderAll_cons, renderAll_cons, mapError_bind, render_mapError h item]
      congr 1
      funext text
      rw [mapError_map, renderAll_mapError h rest]

end

end Table

/-! ## The outcomes of the dialects -/

namespace Dialect

/-- The postgres error for an error of the base dialect. -/
def translateError : RenderError → RenderError
  | .unsupported op => .untranslatable op
  | e => e

/-- The dialects refuse the same nodes. -/
theorem corresponds_base_postgres :
    Table.Corresponds Dialect.base.table Dialect.postgres.table translateError := by
  intro op left right
  by_cases hforeign : op.IsForeign
  · rw [outcome_close_of_isForeign .postgres hforeign, outcome_close_of_isForeign .base hforeign]
    rfl
  · rw [close_of_not_isForeign .postgres hforeign, close_of_not_isForeign .base hforeign]
    cases houtcome : (Table.shared.close op left right).outcome with
    | ok sql => rfl
    | error e =>
        have hfail := Table.outcome_close_shared_eq_error_iff hforeign left right e
        obtain ⟨-, -, rfl⟩ := hfail.mp houtcome
        rfl

/-- What a tree can fail with under a dialect. -/
theorem render_error_cases (dialect : Dialect) {tree : Expr} {e : RenderError}
    (h : dialect.table.render tree = .error e) :
    (∃ op, op.IsForeign ∧ e = dialect.refusal op) ∨ ∃ text, e = .malformedRange text := by
  obtain ⟨-, n, -, -, -, hfail⟩ := (dialect.table.render_error_iff tree e).mp h
  rcases failsAt_cases dialect hfail with ⟨hforeign, he⟩ | ⟨-, text, -, -, he⟩
  · exact .inl ⟨n.op, hforeign, he⟩
  · exact .inr ⟨text, he⟩

/-- **The dialects differ only in how they refuse.** A tree has the same text under both, the same
malformed range, or an operator that SQL has no counterpart of; the base dialect calls that operator
unsupported, the postgres dialect untranslatable, and nothing else comes out. -/
theorem render_base_postgres (tree : Expr) :
    (∀ sql, Dialect.base.table.render tree = .ok sql ↔
      Dialect.postgres.table.render tree = .ok sql) ∧
    (∀ op, (Dialect.base.table.render tree = .error (.unsupported op) ↔
        Dialect.postgres.table.render tree = .error (.untranslatable op)) ∧
      (Dialect.base.table.render tree = .error (.unsupported op) → op = .fuzzy ∨ op = .boost)) ∧
    (∀ text, Dialect.base.table.render tree = .error (.malformedRange text) ↔
      Dialect.postgres.table.render tree = .error (.malformedRange text)) ∧
    ((∃ sql, Dialect.base.table.render tree = .ok sql) ∨
      (∃ op, Dialect.base.table.render tree = .error (.unsupported op)) ∨
      ∃ text, Dialect.base.table.render tree = .error (.malformedRange text)) ∧
    ((∃ sql, Dialect.postgres.table.render tree = .ok sql) ∨
      (∃ op, Dialect.postgres.table.render tree = .error (.untranslatable op)) ∨
      ∃ text, Dialect.postgres.table.render tree = .error (.malformedRange text)) := by
  rw [Table.render_mapError corresponds_base_postgres tree]
  cases hbase : Dialect.base.table.render tree with
  | ok sql => simp [Except.mapError]
  | error e =>
      rcases render_error_cases .base hbase with ⟨op, hforeign, rfl⟩ | ⟨text, rfl⟩
      · have hop : ∀ op', op = op' → op' = .fuzzy ∨ op' = .boost := by
          rintro op' rfl
          exact hforeign
        simpa [Except.mapError, refusal, translateError] using hop
      · simp [Except.mapError, translateError]

/-- The range on the left is refused before the boosted term on the right is met. -/
example : Dialect.postgres.table.render
    (.node .and (.expr (.node .range .absent (.range ⟨"", "9", true⟩)))
      (.expr (.unary .boost .absent))) = .error (.malformedRange "[, 9]") := by
  rfl

end Dialect

end SqlFilter
