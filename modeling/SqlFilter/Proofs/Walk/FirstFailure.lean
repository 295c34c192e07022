import SqlFilter.Sql.Render
import SqlFilter.Proofs.Query.PostOrder

set_option autoImplicit false

/-! # The first failure of a walk

A node fails by itself when its operator has no rule, or when the texts of its two operands are
there and the rule fails on them. Rendering returns the error of the first node in post-order that
fails by itself, and succeeds when there is none. So the error of a child comes before a missing
rule of its parent, and an operand that a rule would drop can still fail the whole tree.
-/

namespace SqlFilter

/-- What an outcome failed with. -/
def failure? {ε α : Type} : Except ε α → Option ε
  | .ok _ => none
  | .error e => some e

theorem failure?_eq_none_iff {ε α : Type} (x : Except ε α) :
    failure? x = none ↔ ∃ a, x = .ok a := by
  cases x <;> simp [failure?]

theorem failure?_eq_some_iff {ε α : Type} (x : Except ε α) (e : ε) :
    failure? x = some e ↔ x = .error e := by
  cases x <;> simp [failure?]

namespace Table

variable (table : Table)

/-! ## The equations of the walk, by their outcomes -/

@[simp] theorem renderOperand_absent : table.renderOperand .absent = .ok "" := by
  rw [renderOperand, walkOperand, Logged.quiet]

@[simp] theorem renderOperand_range (boundary : Boundary) :
    table.renderOperand (.range boundary) = .ok boundary.text := by
  rw [renderOperand, walkOperand, Logged.quiet]

@[simp] theorem renderOperand_column (column : Column) :
    table.renderOperand (.column column) = .ok column.sql := by
  rw [renderOperand, walkOperand, Logged.quiet]

@[simp] theorem renderOperand_value (scalar : Scalar) :
    table.renderOperand (.value scalar) = .ok scalar.sql := by
  rw [renderOperand, walkOperand, Logged.quiet]

@[simp] theorem renderOperand_expr (tree : Expr) :
    table.renderOperand (.expr tree) = table.render tree := by
  rw [renderOperand, walkOperand, render]

/-- The texts of several trees. -/
def renderAll (items : List Expr) : Except RenderError (List String) :=
  (table.walkAll items).outcome

theorem renderOperand_list (items : List Expr) :
    table.renderOperand (.list items) = (table.renderAll items).map joinItems := by
  rw [renderOperand, walkOperand, Logged.outcome_andThen, renderAll]
  cases (table.walkAll items).outcome <;> rfl

@[simp] theorem renderAll_nil : table.renderAll [] = .ok [] := by
  rw [renderAll, walkAll, Logged.quiet]

theorem renderAll_cons (item : Expr) (rest : List Expr) :
    table.renderAll (item :: rest) =
      (table.render item).bind fun text => (table.renderAll rest).map (text :: ·) := by
  rw [renderAll, walkAll, Logged.outcome_andThen, render]
  congr 1
  funext text
  rw [Logged.outcome_andThen, renderAll]
  cases (table.walkAll rest).outcome <;> rfl

/-- At a node without a rule nothing is applied. -/
theorem outcome_close_none {op : Operator} (h : table.rule? op = none) (left right : String) :
    (table.close op left right).outcome = .error (.unsupported op) := by
  rw [close, h]

/-- The outcome at a node with a rule is that of the rule. -/
theorem outcome_close_some {op : Operator} {rule : Rule} (h : table.rule? op = some rule)
    (left right : String) :
    (table.close op left right).outcome = rule.apply left right := by
  rw [close, h]
  cases hr : rule.apply left right <;> simp [hr]

/-- Two tables with the same rule for an operator do the same at its nodes. -/
theorem close_congr {table table' : Table} {op : Operator} (h : table.rule? op = table'.rule? op)
    (left right : String) : table.close op left right = table'.close op left right := by
  rw [close, close, h]

/-! ## Nodes that fail by themselves -/

/-- A node fails by itself: its operator has no rule, or its rule fails on the texts of its
operands. -/
inductive FailsAt : Expr → RenderError → Prop where
  | unmapped {op : Operator} {left right : Operand} (hrule : table.rule? op = none) :
      FailsAt (.node op left right) (.unsupported op)
  | applied {op : Operator} {left right : Operand} {rule : Rule} {l r : String} {e : RenderError}
      (hrule : table.rule? op = some rule) (hleft : table.renderOperand left = .ok l)
      (hright : table.renderOperand right = .ok r) (happly : rule.apply l r = .error e) :
      FailsAt (.node op left right) e

/-- A node has a rule, and the rule succeeds on the texts of its operands. -/
def SucceedsAt (n : Expr) : Prop :=
  ∃ rule l r sql, table.rule? n.op = some rule ∧ table.renderOperand n.left = .ok l ∧
    table.renderOperand n.right = .ok r ∧ rule.apply l r = .ok sql

/-- What a node fails with by itself. -/
def fault? : Expr → Option RenderError
  | .node op left right =>
    match table.rule? op with
    | none => some (.unsupported op)
    | some rule =>
      match table.renderOperand left, table.renderOperand right with
      | .ok l, .ok r => failure? (rule.apply l r)
      | _, _ => none

theorem fault?_eq_some_iff (n : Expr) (e : RenderError) :
    table.fault? n = some e ↔ table.FailsAt n e := by
  cases n with
  | node op left right =>
      constructor
      · intro h
        rw [fault?] at h
        split at h
        · rename_i hrule
          obtain rfl := Option.some.inj h
          exact .unmapped hrule
        · rename_i rule hrule
          split at h
          · rename_i l r hl hr
            exact .applied hrule hl hr ((failure?_eq_some_iff _ _).mp h)
          · cases h
      · intro h
        cases h with
        | unmapped hrule => rw [fault?, hrule]
        | applied hrule hl hr happly =>
            rw [fault?, hrule, hl, hr]
            exact (failure?_eq_some_iff _ _).mpr happly

/-- Where both operands have their texts, the last step at a node fails exactly as the node does by
itself. -/
theorem failure?_close {op : Operator} {left right : Operand} {l r : String}
    (hl : table.renderOperand left = .ok l) (hr : table.renderOperand right = .ok r) :
    failure? (table.close op l r).outcome = table.fault? (.node op left right) := by
  rw [fault?]
  cases hrule : table.rule? op with
  | none => rw [outcome_close_none table hrule, failure?]
  | some rule => rw [outcome_close_some table hrule, hl, hr]

/-! ## The first of them is what a walk fails with -/

mutual

/-- A tree fails with what the first of its nodes fails with. -/
theorem failure?_render : ∀ tree : Expr,
    failure? (table.render tree) = tree.nodes.findSome? table.fault?
  | .node op left right => by
      have hleft := failure?_renderOperand left
      have hright := failure?_renderOperand right
      -- the two operands and the node in this order; the first that fails hides the others
      rw [render_node, Expr.nodes, List.findSome?_append, List.findSome?_append, ← hleft, ← hright]
      cases hl : table.renderOperand left with
      | error e => rfl
      | ok l =>
          cases hr : table.renderOperand right with
          | error e => rfl
          | ok r =>
              show failure? (table.close op l r).outcome = _
              rw [failure?_close table hl hr]
              simp [failure?]

/-- An operand fails with what the first of its nodes fails with. -/
theorem failure?_renderOperand : ∀ operand : Operand,
    failure? (table.renderOperand operand) = operand.nodes.findSome? table.fault?
  | .expr tree => by
      rw [renderOperand_expr, Operand.nodes]
      exact failure?_render tree
  | .list items => by
      have h := failure?_renderAll items
      rw [renderOperand_list, Operand.nodes, ← h]
      cases table.renderAll items <;> rfl
  | .absent => by rw [renderOperand_absent]; rfl
  | .range _ => by rw [renderOperand_range]; rfl
  | .column _ => by rw [renderOperand_column]; rfl
  | .value _ => by rw [renderOperand_value]; rfl

/-- Several trees fail with what the first of their nodes fails with. -/
theorem failure?_renderAll : ∀ items : List Expr,
    failure? (table.renderAll items) = (Expr.nodesAll items).findSome? table.fault?
  | [] => by rw [renderAll_nil]; rfl
  | item :: rest => by
      have hitem := failure?_render item
      have hrest := failure?_renderAll rest
      rw [renderAll_cons, Expr.nodesAll, List.findSome?_append, ← hitem, ← hrest]
      cases table.render item with
      | error e => rfl
      | ok text => cases table.renderAll rest <;> rfl

end

/-- A node has a text exactly when its operands have theirs and its rule makes one of them. -/
theorem render_node_eq_ok_iff {op : Operator} {left right : Operand} {sql : String} :
    table.render (.node op left right) = .ok sql ↔
      ∃ rule l r, table.rule? op = some rule ∧ table.renderOperand left = .ok l ∧
        table.renderOperand right = .ok r ∧ rule.apply l r = .ok sql := by
  rw [render_node]
  constructor
  · intro h
    cases hl : table.renderOperand left with
    | error e => rw [hl] at h; cases h
    | ok l =>
        cases hr : table.renderOperand right with
        | error e => rw [hl, hr] at h; cases h
        | ok r =>
            rw [hl, hr] at h
            change (table.close op l r).outcome = .ok sql at h
            cases hrule : table.rule? op with
            | none => rw [outcome_close_none table hrule] at h; cases h
            | some rule =>
                rw [outcome_close_some table hrule] at h
                exact ⟨rule, l, r, rfl, rfl, rfl, h⟩
  · rintro ⟨rule, l, r, hrule, hl, hr, happly⟩
    rw [hl, hr]
    show (table.close op l r).outcome = .ok sql
    rw [outcome_close_some table hrule, happly]

/-- A node with a text succeeds by itself. -/
theorem succeedsAt_of_render {n : Expr} {sql : String} (h : table.render n = .ok sql) :
    table.SucceedsAt n := by
  cases n with
  | node op left right =>
      obtain ⟨rule, l, r, hrule, hl, hr, happly⟩ := (render_node_eq_ok_iff table).mp h
      exact ⟨rule, l, r, sql, hrule, hl, hr, happly⟩

theorem not_failsAt_of_succeedsAt {n : Expr} (h : table.SucceedsAt n) (e : RenderError) :
    ¬ table.FailsAt n e := by
  intro hfail
  obtain ⟨rule, l, r, sql, hrule, hl, hr, happly⟩ := h
  cases hfail with
  | unmapped hnone => rw [Expr.op_node, hnone] at hrule; cases hrule
  | applied hrule' hl' hr' happly' =>
      rw [Expr.op_node, hrule'] at hrule
      rw [Expr.left_node, hl'] at hl
      rw [Expr.right_node, hr'] at hr
      cases hrule; cases hl; cases hr
      rw [happly'] at happly
      cases happly

/-- A tree has a text exactly when all of its nodes succeed by themselves. -/
theorem render_ok_iff (tree : Expr) :
    (∃ sql, table.render tree = .ok sql) ↔ ∀ n ∈ tree.nodes, table.SucceedsAt n := by
  rw [← failure?_eq_none_iff, failure?_render, List.findSome?_eq_none_iff]
  constructor
  · intro h n hn
    -- the nodes below `n` come before it, and none of them fails
    have hbelow : failure? (table.render n) = none := by
      rw [failure?_render, List.findSome?_eq_none_iff]
      exact fun m hm => h m (Expr.nodes_subset_of_mem hn hm)
    obtain ⟨sql, hsql⟩ := (failure?_eq_none_iff _).mp hbelow
    exact succeedsAt_of_render table hsql
  · intro h n hn
    cases hfault : table.fault? n with
    | none => rfl
    | some e =>
        have hfail := (fault?_eq_some_iff table n e).mp hfault
        exact absurd hfail (not_failsAt_of_succeedsAt table (h n hn) e)

/-- A tree fails with an error exactly when that is the error of its first node that fails. -/
theorem render_error_iff (tree : Expr) (e : RenderError) :
    table.render tree = .error e ↔
      ∃ before n after, tree.nodes = before ++ n :: after ∧
        (∀ m ∈ before, ∀ e', ¬ table.FailsAt m e') ∧ table.FailsAt n e := by
  rw [← failure?_eq_some_iff, failure?_render, List.findSome?_eq_some_iff]
  constructor
  · rintro ⟨before, n, after, hnodes, hn, hbefore⟩
    refine ⟨before, n, after, hnodes, ?_, (fault?_eq_some_iff table n e).mp hn⟩
    intro m hm e' hfail
    have hm' := hbefore m hm
    rw [(fault?_eq_some_iff table m e').mpr hfail] at hm'
    cases hm'
  · rintro ⟨before, n, after, hnodes, hbefore, hn⟩
    refine ⟨before, n, after, hnodes, (fault?_eq_some_iff table n e).mpr hn, ?_⟩
    intro m hm
    cases hfault : table.fault? m with
    | none => rfl
    | some e' => exact absurd ((fault?_eq_some_iff table m e').mp hfault) (hbefore m hm e')

/-- A failure inside the operands of a node fails the node in the same way under every operator,
also one without a rule or with a rule that drops the operand. -/
theorem render_error_of_mem_operands {left right : Operand} {n : Expr} {e : RenderError}
    (hn : n ∈ left.nodes ++ right.nodes) (hfail : table.FailsAt n e) :
    ∃ e', ∀ op, table.render (.node op left right) = .error e' := by
  have hsome : ((left.nodes ++ right.nodes).findSome? table.fault?).isSome = true := by
    rw [List.findSome?_isSome_iff]
    refine ⟨n, hn, ?_⟩
    rw [(fault?_eq_some_iff table n e).mpr hfail]
    rfl
  obtain ⟨e', he'⟩ := Option.isSome_iff_exists.mp hsome
  refine ⟨e', fun op => ?_⟩
  rw [← failure?_eq_some_iff, failure?_render, Expr.nodes, ← List.append_assoc,
    List.findSome?_append, he']
  rfl

/-- **The first failure in post-order is the outcome.** A tree has a text exactly when each of its
nodes has a rule that succeeds on the texts of its operands; it fails with an error exactly when
that is the error of the first node that fails by itself. Whatever fails inside the operands of a
node comes before the node's own operator. -/
theorem render_first_failure (table : Table) (tree : Expr) :
    ((∃ sql, table.render tree = .ok sql) ↔ ∀ n ∈ tree.nodes, table.SucceedsAt n) ∧
    (∀ e, table.render tree = .error e ↔
      ∃ before n after, tree.nodes = before ++ n :: after ∧
        (∀ m ∈ before, ∀ e', ¬ table.FailsAt m e') ∧ table.FailsAt n e) ∧
    (∀ left right, (∃ n ∈ left.nodes ++ right.nodes, ∃ e, table.FailsAt n e) →
      ∃ e, ∀ op, table.render (.node op left right) = .error e) := by
  refine ⟨render_ok_iff table tree, render_error_iff table tree, ?_⟩
  rintro left right ⟨n, hn, e, hfail⟩
  exact render_error_of_mem_operands table hn hfail

/-- A fuzzy term fails also on the side that the rule of a requirement drops. -/
example : Table.shared.render
    (.node .must (.column ⟨"a"⟩) (.expr (.unary .fuzzy (.value (.string "b"))))) =
      .error (.unsupported .fuzzy) := by
  rfl

end Table

end SqlFilter
