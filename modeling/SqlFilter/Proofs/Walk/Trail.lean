import SqlFilter.Proofs.Walk.FirstFailure
import SqlFilter.Query.Build

set_option autoImplicit false

/-! # The log of a walk

A walk notes one event for each node that it renders, in post-order, and stops at the first node
without a text, of which it notes only that its operator has no rule, if that is the reason.
`Table.trail` says so of a list of nodes, and `Table.Traces` says of a step that it goes through
certain nodes: it notes their trail, and it fails with the first of them that fails by itself. Steps
one after another go through the nodes of both (`Table.Traces.andThen`), so the walk over a tree
goes through the nodes of the tree (`Table.traces_walk`).
-/

namespace SqlFilter

namespace Logged

variable {α β : Type}

theorem andThen_of_ok {step : Logged α} {a : α} (h : step.outcome = .ok a)
    (next : α → Logged β) :
    step.andThen next = ⟨step.events ++ (next a).events, (next a).outcome⟩ := by
  rw [andThen, h]

theorem andThen_of_error {step : Logged α} {e : RenderError} (h : step.outcome = .error e)
    (next : α → Logged β) : step.andThen next = ⟨step.events, .error e⟩ := by
  rw [andThen, h]

end Logged

/-- The last node of a tree is the tree itself. -/
theorem Expr.exists_nodes_eq (tree : Expr) : ∃ below, tree.nodes = below ++ [tree] := by
  cases tree with
  | node op left right => exact ⟨left.nodes ++ right.nodes, by simp [Expr.nodes]⟩

namespace Table

variable (table : Table)

/-! ## The trail of some nodes -/

/-- Every one of some nodes has a text. -/
def AllRendered (nodes : List Expr) : Prop :=
  ∀ n ∈ nodes, ∃ sql, table.render n = .ok sql

/-- What is noted of nodes one after another, up to the first that has no text. -/
def trail : List Expr → List Event
  | [] => []
  | n :: rest =>
    match table.render n with
    | .ok sql => .rendered n.op sql :: trail rest
    | .error _ => if (table.rule? n.op).isNone then [.unmapped n.op] else []

variable {table}

theorem trail_cons_of_ok {n : Expr} {sql : String} (h : table.render n = .ok sql)
    (rest : List Expr) : table.trail (n :: rest) = .rendered n.op sql :: table.trail rest := by
  rw [trail, h]

theorem trail_cons_of_error {n : Expr} {e : RenderError} (h : table.render n = .error e)
    (rest : List Expr) :
    table.trail (n :: rest) = if (table.rule? n.op).isNone then [.unmapped n.op] else [] := by
  rw [trail, h]

theorem trail_append {first : List Expr} (h : table.AllRendered first) (second : List Expr) :
    table.trail (first ++ second) = table.trail first ++ table.trail second := by
  induction first with
  | nil => rfl
  | cons n first ih =>
      obtain ⟨hn, hfirst⟩ := List.forall_mem_cons.mp h
      obtain ⟨sql, hsql⟩ := hn
      rw [List.cons_append, trail_cons_of_ok hsql, trail_cons_of_ok hsql, ih hfirst,
        List.cons_append]

/-- Nothing is noted any more after a node without a text. -/
theorem trail_append_of_not {first : List Expr} (h : ¬ table.AllRendered first)
    (second : List Expr) : table.trail (first ++ second) = table.trail first := by
  induction first with
  | nil => exact absurd (fun n hn => absurd hn List.not_mem_nil) h
  | cons n first ih =>
      rw [List.cons_append]
      cases hn : table.render n with
      | error e => rw [trail_cons_of_error hn, trail_cons_of_error hn]
      | ok sql =>
          have hfirst : ¬ table.AllRendered first := by
            intro hall
            exact h (List.forall_mem_cons.mpr ⟨⟨sql, hn⟩, hall⟩)
          rw [trail_cons_of_ok hn, trail_cons_of_ok hn, ih hfirst]

/-- A node that fails by itself has no text. -/
theorem exists_error_of_failsAt {n : Expr} {e : RenderError} (h : table.FailsAt n e) :
    ∃ e', table.render n = .error e' := by
  cases hn : table.render n with
  | ok sql => exact absurd h (not_failsAt_of_succeedsAt table (succeedsAt_of_render table hn) e)
  | error e' => exact ⟨e', rfl⟩

/-! ## The walk goes through the nodes -/

variable (table) in
/-- The step goes through the nodes: it notes their trail, it has a result only if all of them have
a text, and it fails with the error of the first that fails by itself. -/
structure Traces {α : Type} (step : Logged α) (nodes : List Expr) : Prop where
  events_eq : step.events = table.trail nodes
  rendered : ∀ a, step.outcome = .ok a → table.AllRendered nodes
  failed : ∀ e, step.outcome = .error e → ∃ before n after, nodes = before ++ n :: after ∧
    table.AllRendered before ∧ table.FailsAt n e

theorem Traces.not_allRendered {α : Type} {step : Logged α} {nodes : List Expr}
    (h : table.Traces step nodes) {e : RenderError} (he : step.outcome = .error e) :
    ¬ table.AllRendered nodes := by
  obtain ⟨before, n, after, rfl, -, hfail⟩ := h.failed e he
  intro hall
  obtain ⟨sql, hsql⟩ := hall n (by simp)
  obtain ⟨e', he'⟩ := exists_error_of_failsAt hfail
  rw [hsql] at he'
  cases he'

theorem traces_quiet {α : Type} (a : α) : table.Traces (.quiet (.ok a)) [] where
  events_eq := rfl
  rendered := fun _ _ _ hn => absurd hn List.not_mem_nil
  failed := fun _ he => nomatch he

/-- Two steps go through the nodes of the first and then through those of the second. -/
theorem Traces.andThen {α β : Type} {step : Logged α} {next : α → Logged β}
    {first second : List Expr} (h : table.Traces step first)
    (hnext : ∀ a, step.outcome = .ok a → table.Traces (next a) second) :
    table.Traces (step.andThen next) (first ++ second) := by
  cases houtcome : step.outcome with
  | ok a =>
      have hfirst := h.rendered a houtcome
      have hsecond := hnext a houtcome
      rw [Logged.andThen_of_ok houtcome]
      refine ⟨?_, ?_, ?_⟩
      · rw [trail_append hfirst, h.events_eq, hsecond.events_eq]
      · intro b hb
        exact List.forall_mem_append.mpr ⟨hfirst, hsecond.rendered b hb⟩
      · intro e he
        obtain ⟨before, n, after, rfl, hbefore, hfail⟩ := hsecond.failed e he
        refine ⟨first ++ before, n, after, (List.append_assoc ..).symm, ?_, hfail⟩
        exact List.forall_mem_append.mpr ⟨hfirst, hbefore⟩
  | error e =>
      rw [Logged.andThen_of_error houtcome]
      refine ⟨?_, ?_, ?_⟩
      · rw [trail_append_of_not (h.not_allRendered houtcome), h.events_eq]
      · rintro b ⟨⟩
      · rintro _ ⟨⟩
        obtain ⟨before, n, after, rfl, hbefore, hfail⟩ := h.failed e houtcome
        exact ⟨before, n, after ++ second, by simp, hbefore, hfail⟩

/-- The last step at a node goes through that node alone. -/
theorem traces_close {op : Operator} {left right : Operand} {l r : String}
    (hl : table.renderOperand left = .ok l) (hr : table.renderOperand right = .ok r) :
    table.Traces (table.close op l r) [.node op left right] := by
  have hrender : table.render (.node op left right) = (table.close op l r).outcome := by
    rw [render_node, hl, hr]
    rfl
  refine ⟨?_, ?_, ?_⟩
  · -- what is noted depends on whether there is a rule, and on whether it succeeds
    rw [trail, hrender, close, Expr.op_node]
    cases hrule : table.rule? op with
    | none => rfl
    | some rule => cases happly : rule.apply l r <;> simp [happly, trail]
  · intro sql hsql
    exact List.forall_mem_singleton.mpr ⟨sql, hrender.trans hsql⟩
  · intro e he
    have hfault : failure? (table.close op l r).outcome = table.fault? (.node op left right) :=
      failure?_close table hl hr
    rw [he, failure?] at hfault
    exact ⟨[], _, [], rfl, fun _ hn => absurd hn List.not_mem_nil,
      (fault?_eq_some_iff table _ e).mp hfault.symm⟩

mutual

/-- The walk over a tree goes through its nodes. -/
theorem traces_walk : ∀ tree : Expr, table.Traces (table.walk tree) tree.nodes
  | .node op left right => by
      rw [walk, Expr.nodes]
      refine (traces_walkOperand left).andThen fun l hl => ?_
      refine (traces_walkOperand right).andThen fun r hr => ?_
      exact traces_close hl hr

/-- The walk over an operand goes through its nodes. -/
theorem traces_walkOperand : ∀ operand : Operand,
    table.Traces (table.walkOperand operand) operand.nodes
  | .expr tree => by
      rw [walkOperand, Operand.nodes]
      exact traces_walk tree
  | .list items => by
      rw [walkOperand, Operand.nodes, ← List.append_nil (Expr.nodesAll items)]
      exact (traces_walkAll items).andThen fun texts _ => traces_quiet (joinItems texts)
  | .absent | .range _ | .column _ | .value _ => by
      rw [walkOperand, Operand.nodes]
      exact traces_quiet _

/-- The walk over several trees goes through their nodes. -/
theorem traces_walkAll : ∀ items : List Expr,
    table.Traces (table.walkAll items) (Expr.nodesAll items)
  | [] => by
      rw [walkAll, Expr.nodesAll]
      exact traces_quiet []
  | item :: rest => by
      rw [walkAll, Expr.nodesAll, ← List.append_nil (Expr.nodesAll rest)]
      refine (traces_walk item).andThen fun text _ => ?_
      exact (traces_walkAll rest).andThen fun texts _ => traces_quiet (text :: texts)

end

/-! ## Records -/

variable (table) in
/-- The records of a walk. -/
def log (tree : Expr) : List Record :=
  (table.walk tree).events.map Event.record

/-- The record of a node that was rendered. -/
def renderedRecord (op : Operator) (sql : String) : Record :=
  ⟨.trace, "lucene_sql::driver::base", "Rendered " ++ op.name ++ " node: " ++ sql⟩

/-- The record of an operator without a rule. -/
def unmappedRecord (op : Operator) : Record :=
  ⟨.debug, "lucene_sql::driver::base", "No render function for operator " ++ op.name⟩

variable (table) in
/-- The record tells of the node, with the text that the node has. -/
def Records (n : Expr) (record : Record) : Prop :=
  ∃ sql, table.render n = .ok sql ∧ record = renderedRecord n.op sql

theorem log_eq (tree : Expr) : table.log tree = (table.trail tree.nodes).map Event.record := by
  rw [log, (traces_walk tree).events_eq]

theorem forall₂_trail {nodes : List Expr} (h : table.AllRendered nodes) :
    List.Forall₂ table.Records nodes ((table.trail nodes).map Event.record) := by
  induction nodes with
  | nil => exact .nil
  | cons n nodes ih =>
      obtain ⟨⟨sql, hsql⟩, hnodes⟩ := List.forall_mem_cons.mp h
      rw [trail_cons_of_ok hsql, List.map_cons]
      exact .cons ⟨sql, hsql, rfl⟩ (ih hnodes)

/-- At most one record tells of an operator without a rule, because nothing is noted after it. -/
theorem countP_trail_le (nodes : List Expr) :
    ((table.trail nodes).map Event.record).countP (·.level = .debug) ≤ 1 := by
  induction nodes with
  | nil => exact Nat.zero_le 1
  | cons n nodes ih =>
      cases hn : table.render n with
      | ok sql =>
          rw [trail_cons_of_ok hn, List.map_cons, List.countP_cons_of_neg (by simp [Event.record])]
          exact ih
      | error e =>
          rw [trail_cons_of_error hn]
          split
          · exact List.countP_le_length
          · exact Nat.zero_le 1

/-- **The log is the walk.** A tree with a text leaves one record for each of its nodes, in
post-order, with the node's own text; the last record holds the text of the tree. A tree that fails
leaves those of the nodes before the first one that fails by itself, and after them one record of
the missing rule if that is why the node fails, and none if its rule fails. There is never more than
one record of a missing rule. -/
theorem log_follows_nodes (table : Table) (tree : Expr) :
    (∀ sql, table.render tree = .ok sql →
      List.Forall₂ table.Records tree.nodes (table.log tree) ∧
      (table.log tree).length = tree.nodes.length ∧
      (table.log tree).getLast? = some (renderedRecord tree.op sql)) ∧
    (∀ e, table.render tree = .error e →
      ∃ before n after written, tree.nodes = before ++ n :: after ∧
        table.FailsAt n e ∧ List.Forall₂ table.Records before written ∧
        (table.rule? n.op = none → table.log tree = written ++ [unmappedRecord n.op]) ∧
        (table.rule? n.op ≠ none → table.log tree = written)) ∧
    (table.log tree).countP (·.level = .debug) ≤ 1 := by
  have htraces := table.traces_walk tree
  rw [log_eq]
  refine ⟨?_, ?_, countP_trail_le tree.nodes⟩
  · intro sql hsql
    have hrecords := forall₂_trail (htraces.rendered sql hsql)
    refine ⟨hrecords, hrecords.length_eq.symm, ?_⟩
    obtain ⟨below, hnodes⟩ := tree.exists_nodes_eq
    have hbelow : table.AllRendered below := by
      intro n hn
      exact htraces.rendered sql hsql n (by simp [hnodes, hn])
    rw [hnodes, trail_append hbelow, trail_cons_of_ok hsql, List.map_append, trail, List.map_cons,
      List.map_nil, List.getLast?_concat]
    rfl
  · intro e he
    obtain ⟨before, n, after, hnodes, hbefore, hfail⟩ := htraces.failed e he
    obtain ⟨e', he'⟩ := exists_error_of_failsAt hfail
    refine ⟨before, n, after, _, hnodes, hfail, forall₂_trail hbefore, ?_, ?_⟩
    · intro hrule
      rw [hnodes, trail_append hbefore, trail_cons_of_error he', hrule, List.map_append]
      rfl
    · intro hrule
      rw [hnodes, trail_append hbefore, trail_cons_of_error he', List.map_append]
      simp [hrule]

/-- The left side of a conjunction is noted before the fuzzy term on its right fails. -/
example : Table.shared.log
    (.node .and (.expr (.column "a")) (.expr (.fuzzy "b" 1))) =
      [renderedRecord .literal "a", unmappedRecord .fuzzy] := by
  rfl

end Table

end SqlFilter
