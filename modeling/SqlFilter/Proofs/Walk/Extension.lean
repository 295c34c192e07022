import SqlFilter.Query.Build
import SqlFilter.Proofs.Walk.History

set_option autoImplicit false

/-! # Adding rules to a table

A table extends another one when it has all rules of the other and maybe more. What the added rules
would make of a node is never seen in a text that the smaller table has already given: up to the
first node whose operator only the larger table knows, both walks do the same, and at that node the
smaller one ends. `Table.Agrees` says so of two outcomes and survives one step after another
(`Table.Agrees.bind`), so the induction over a tree has nothing to say about rules except at the
node itself (`Table.agrees_close`).
-/

namespace SqlFilter

namespace Table

/-- The larger table has the rules of the smaller one, and maybe rules for further operators. -/
def Extends (larger smaller : Table) : Prop :=
  ∀ op, smaller.supports op = true → larger.rule? op = smaller.rule? op

/-- The outcome under the smaller table is the one under the larger table, or the smaller table ends
at one of the operators, for which only the larger one has a rule. -/
def Agrees (smaller larger : Table) (operators : List Operator) {α : Type}
    (x y : Except RenderError α) : Prop :=
  x = y ∨ ∃ op ∈ operators, smaller.rule? op = none ∧ larger.supports op = true ∧
    x = .error (.unsupported op)

variable {smaller larger : Table} {operators : List Operator}

theorem supports_iff (table : Table) (op : Operator) :
    table.supports op = true ↔ ∃ rule, table.rule? op = some rule :=
  Option.isSome_iff_exists

/-! ## Step by step -/

theorem agrees_rfl {α : Type} (x : Except RenderError α) : Agrees smaller larger operators x x :=
  .inl rfl

/-- One step after another. -/
theorem Agrees.bind {α β : Type} {x y : Except RenderError α} {f g : α → Except RenderError β}
    (h : Agrees smaller larger operators x y)
    (hnext : ∀ a, Agrees smaller larger operators (f a) (g a)) :
    Agrees smaller larger operators (x.bind f) (y.bind g) := by
  rcases h with rfl | ⟨op, hop, hnone, hsome, rfl⟩
  · cases x with
    | error e => exact agrees_rfl _
    | ok a => exact hnext a
  · exact .inr ⟨op, hop, hnone, hsome, rfl⟩

theorem Agrees.map {α β : Type} {x y : Except RenderError α}
    (h : Agrees smaller larger operators x y) (f : α → β) :
    Agrees smaller larger operators (x.map f) (y.map f) := by
  rcases h with rfl | ⟨op, hop, hnone, hsome, rfl⟩
  · exact agrees_rfl _
  · exact .inr ⟨op, hop, hnone, hsome, rfl⟩

/-- The last step at a node. -/
theorem agrees_close (h : larger.Extends smaller) {op : Operator} (hop : op ∈ operators)
    (left right : String) :
    Agrees smaller larger operators (smaller.close op left right).outcome
      (larger.close op left right).outcome := by
  cases hrule : smaller.rule? op with
  | some rule =>
      have hsame := h op ((supports_iff smaller op).mpr ⟨rule, hrule⟩)
      rw [close_congr hsame.symm]
      exact agrees_rfl _
  | none =>
      cases hrule' : larger.rule? op with
      | none =>
          rw [outcome_close_none _ hrule, outcome_close_none _ hrule']
          exact agrees_rfl _
      | some rule =>
          exact .inr ⟨op, hop, hrule, (supports_iff larger op).mpr ⟨rule, hrule'⟩,
            outcome_close_none _ hrule left right⟩

/-! ## Over a tree -/

mutual

theorem agrees_render (h : larger.Extends smaller) : ∀ {tree : Expr},
    (∀ n ∈ tree.nodes, n.op ∈ operators) →
      Agrees smaller larger operators (smaller.render tree) (larger.render tree)
  | .node op left right, hin => by
      rw [Expr.nodes] at hin
      have hleft := agrees_renderOperand h fun n hn => hin n (List.mem_append_left _ hn)
      have hright := agrees_renderOperand h fun n hn =>
        hin n (List.mem_append_right _ (List.mem_append_left _ hn))
      have hop : op ∈ operators := hin (.node op left right) (by simp)
      rw [render_node, render_node]
      exact hleft.bind fun l => hright.bind fun r => agrees_close h hop l r

theorem agrees_renderOperand (h : larger.Extends smaller) : ∀ {operand : Operand},
    (∀ n ∈ operand.nodes, n.op ∈ operators) →
      Agrees smaller larger operators (smaller.renderOperand operand) (larger.renderOperand operand)
  | .expr tree, hin => by
      rw [renderOperand_expr, renderOperand_expr]
      exact agrees_render h hin
  | .list items, hin => by
      rw [renderOperand_list, renderOperand_list]
      exact (agrees_renderAll h hin).map joinItems
  | .absent, _ => by simpa using agrees_rfl (Except.ok "")
  | .range boundary, _ => by simpa using agrees_rfl (Except.ok boundary.text)
  | .column column, _ => by simpa using agrees_rfl (Except.ok column.sql)
  | .value scalar, _ => by simpa using agrees_rfl (Except.ok scalar.sql)

theorem agrees_renderAll (h : larger.Extends smaller) : ∀ {items : List Expr},
    (∀ n ∈ Expr.nodesAll items, n.op ∈ operators) →
      Agrees smaller larger operators (smaller.renderAll items) (larger.renderAll items)
  | [], _ => by simpa using agrees_rfl (Except.ok [])
  | item :: rest, hin => by
      rw [Expr.nodesAll] at hin
      have hitem := agrees_render h fun n hn => hin n (List.mem_append_left _ hn)
      have hrest := agrees_renderAll h fun n hn => hin n (List.mem_append_right _ hn)
      rw [renderAll_cons, renderAll_cons]
      exact hitem.bind fun text => hrest.map (text :: ·)

end

theorem agrees_operators (h : larger.Extends smaller) (tree : Expr) :
    Agrees smaller larger tree.operators (smaller.render tree) (larger.render tree) :=
  agrees_render h fun _ hn => List.mem_map_of_mem hn

/-! ## Tables that extend others -/

/-- Rules for operators without one extend a table. -/
theorem extends_insertAll (table : Table) {rules : List (Operator × Rule)}
    (h : ∀ entry ∈ rules, table.rule? entry.1 = none) :
    (table.insertAll rules).Extends table := by
  intro op hop
  obtain ⟨rule, hrule⟩ := (supports_iff table op).mp hop
  -- none of the new rules is for the operator
  rw [rule?_insertAll, (latest?_eq_none_iff _ op).mpr, Option.getD_none]
  intro hmem
  rw [List.map_map] at hmem
  obtain ⟨entry, hentry, rfl⟩ := List.mem_map.mp hmem
  have hfree := h entry hentry
  rw [show table.rule? entry.1 = some rule from hrule] at hfree
  cases hfree

/-- A table extends what is left of it when a rule is erased. -/
theorem extends_erase (table : Table) (op : Operator) : table.Extends (table.erase op) := by
  intro op' hop'
  obtain ⟨rule, hrule⟩ := (supports_iff _ op').mp hop'
  rw [rule?_erase] at hrule ⊢
  split at hrule
  · cases hrule
  · next hne => rw [if_neg hne]

/-- **Adding rules is monotone.** Under a table and one that extends it a tree has the same outcome,
unless the smaller table fails at an operator of the tree that it has no rule for. So a text stays
as it is when rules are added for operators without one, and so does any other error; and erasing
the rule of an operator can only make that operator unsupported. -/
theorem render_of_extends (smaller larger : Table) (h : larger.Extends smaller) (tree : Expr) :
    (smaller.render tree = larger.render tree ∨
      ∃ op ∈ tree.operators, smaller.rule? op = none ∧
        smaller.render tree = .error (.unsupported op)) ∧
    (∀ sql, smaller.render tree = .ok sql → larger.render tree = .ok sql) ∧
    (∀ e, smaller.render tree = .error e →
      (∀ op ∈ tree.operators, smaller.rule? op = none → e ≠ .unsupported op) →
        larger.render tree = .error e) ∧
    (∀ rules : List (Operator × Rule), (∀ entry ∈ rules, smaller.rule? entry.1 = none) →
      (smaller.insertAll rules).Extends smaller) ∧
    (∀ op, (larger.erase op).render tree = larger.render tree ∨
      (op ∈ tree.operators ∧ (larger.erase op).render tree = .error (.unsupported op))) := by
  have hagrees := agrees_operators h tree
  refine ⟨?_, ?_, ?_, fun rules => extends_insertAll smaller, ?_⟩
  · exact hagrees.imp_right fun ⟨op, hop, hnone, _, herror⟩ => ⟨op, hop, hnone, herror⟩
  · intro sql hsql
    rcases hagrees with hsame | ⟨op, -, -, -, herror⟩
    · rw [← hsame, hsql]
    · rw [hsql] at herror
      cases herror
  · intro e he hother
    rcases hagrees with hsame | ⟨op, hop, hnone, -, herror⟩
    · rw [← hsame, he]
    · rw [he] at herror
      exact absurd (Except.error.inj herror) (hother op hop hnone)
  · intro op
    rcases agrees_operators (extends_erase larger op) tree with
      hsame | ⟨op', hop', hnone, hsome, herror⟩
    · exact .inl hsame
    · -- erasing takes away the rule of one operator only
      obtain rfl : op' = op := by
        by_contra hne
        obtain ⟨rule, hrule⟩ := (supports_iff larger op').mp hsome
        rw [rule?_erase, if_neg hne, hrule] at hnone
        cases hnone
      exact .inr ⟨hop', herror⟩

/-- With a rule for boosted terms the boost on the left is rendered, and the walk comes to the fuzzy
term on the right. -/
theorem render_of_extends_boost :
    (shared.insert .boost .pass).Extends shared ∧
    shared.render (.node .and (.expr (.boost (.column "a") .nan)) (.expr (.fuzzy "b" 1))) =
      .error (.unsupported .boost) ∧
    (shared.insert .boost .pass).render
      (.node .and (.expr (.boost (.column "a") .nan)) (.expr (.fuzzy "b" 1))) =
        .error (.unsupported .fuzzy) ∧
    (shared.insert .boost .pass).render (.boost (.column "a") .nan) = .ok "a" ∧
    ((shared.insert .boost .pass).erase .equals).render (.boost (.column "a") .nan) = .ok "a" := by
  have hnew : ∀ entry ∈ [(Operator.boost, Rule.pass)], shared.rule? entry.1 = none :=
    List.forall_mem_singleton.mpr rfl
  have hextends : (shared.insert .boost .pass).Extends shared := extends_insertAll shared hnew
  have herase := (render_of_extends _ _ hextends (.boost (.column "a") .nan)).2.2.2.2 .equals
  refine ⟨hextends, rfl, rfl, rfl, herase.resolve_right ?_⟩
  rintro ⟨hop, -⟩
  revert hop
  decide

end Table

end SqlFilter
