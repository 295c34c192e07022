import SqlFilter.Proofs.Walk.FirstFailure

set_option autoImplicit false

/-! # Tables with a history

A table is made from another one by changes: a rule is inserted, several rules are inserted one
after another, or a rule is erased. Every change is a list of entries, each of which settles one
operator, and the last entry for an operator is the one that counts (`Table.rule?_after`). A walk
asks a table for the operators of the tree alone (`Table.walk_congr`), so two tables whose histories
end alike for these operators render the tree alike, whatever else they hold and however they were
made.
-/

namespace SqlFilter

/-! ## Changes and their entries -/

/-- A change to a table of rules. -/
inductive Change where
  | insert (op : Operator) (rule : Rule)
  | insertAll (rules : List (Operator × Rule))
  | erase (op : Operator)

namespace Change

/-- The table after a change. -/
def apply (table : Table) : Change → Table
  | .insert op rule => table.insert op rule
  | .insertAll rules => table.insertAll rules
  | .erase op => table.erase op

/-- What a change says of operators, in order: the rule of one, or that it has none. -/
def entries : Change → List (Operator × Option Rule)
  | .insert op rule => [(op, some rule)]
  | .insertAll rules => rules.map fun (op, rule) => (op, some rule)
  | .erase op => [(op, none)]

/-- The change says something of the operator. -/
def Mentions (change : Change) (op : Operator) : Prop :=
  op ∈ change.entries.map Prod.fst

end Change

/-- The last entry for an operator among several. -/
def latest? (entries : List (Operator × Option Rule)) (op : Operator) : Option (Option Rule) :=
  (entries.reverse.find? (·.1 = op)).map Prod.snd

theorem latest?_cons (entry : Operator × Option Rule) (entries : List (Operator × Option Rule))
    (op : Operator) :
    latest? (entry :: entries) op =
      (latest? entries op).or (if entry.1 = op then some entry.2 else none) := by
  rw [latest?, latest?, List.reverse_cons, List.find?_append, List.find?_singleton]
  by_cases h : entry.1 = op
  · cases entries.reverse.find? (·.1 = op) <;> simp [h]
  · cases entries.reverse.find? (·.1 = op) <;> simp [h]

theorem latest?_append (first second : List (Operator × Option Rule)) (op : Operator) :
    latest? (first ++ second) op = (latest? second op).or (latest? first op) := by
  induction first with
  | nil => simp [latest?]
  | cons entry first ih =>
      rw [List.cons_append, latest?_cons, latest?_cons, ih, Option.or_assoc]

theorem latest?_eq_none_iff (entries : List (Operator × Option Rule)) (op : Operator) :
    latest? entries op = none ↔ op ∉ entries.map Prod.fst := by
  induction entries with
  | nil => simp [latest?]
  | cons entry entries ih =>
      rw [latest?_cons, Option.or_eq_none_iff, ih, List.map_cons, List.mem_cons, not_or,
        and_comm]
      refine and_congr_left fun _ => ?_
      by_cases h : entry.1 = op
      · simp [h]
      · simp [h, Ne.symm h]

namespace Table

/-! ## The last entry counts -/

/-- The table after a history of changes, the first one first. -/
def after (table : Table) (history : List Change) : Table :=
  history.foldl Change.apply table

/-- The entry that an operator ends with: that of the last change that says something of it, and in
that change the last one, or else the one it had in the beginning. -/
def finalEntry (table : Table) (history : List Change) (op : Operator) : Option Rule :=
  (latest? (history.flatMap Change.entries) op).getD (table.rule? op)

@[ext] theorem ext {table table' : Table} (h : ∀ op, table.rule? op = table'.rule? op) :
    table = table' := by
  cases table
  cases table'
  congr
  funext op
  exact h op

theorem rule?_insertAll (table : Table) (rules : List (Operator × Rule)) (op : Operator) :
    (table.insertAll rules).rule? op =
      (latest? (rules.map fun (op, rule) => (op, some rule)) op).getD (table.rule? op) := by
  induction rules generalizing table with
  | nil => rfl
  | cons item rules ih =>
      obtain ⟨op', rule⟩ := item
      rw [insertAll_cons, ih, rule?_insert, List.map_cons, latest?_cons]
      -- the first rule shows only where no later one is for the same operator
      cases latest? (rules.map fun (op, rule) => (op, some rule)) op with
      | some entry => rfl
      | none =>
          by_cases h : op = op'
          · simp [h]
          · simp [h, Ne.symm h]

/-- One change: the last of its entries for an operator counts. -/
theorem rule?_apply (table : Table) (change : Change) (op : Operator) :
    (change.apply table).rule? op = (latest? change.entries op).getD (table.rule? op) := by
  cases change with
  | insert op' rule => exact rule?_insertAll table [(op', rule)] op
  | insertAll rules => exact rule?_insertAll table rules op
  | erase op' =>
      rw [Change.apply, rule?_erase, Change.entries, latest?_cons]
      by_cases h : op = op'
      · simp [h, latest?]
      · simp [h, Ne.symm h, latest?]

/-- A history of changes: the last entry for an operator counts. -/
theorem rule?_after (table : Table) (history : List Change) (op : Operator) :
    (table.after history).rule? op = table.finalEntry history op := by
  induction history generalizing table with
  | nil => rfl
  | cons change history ih =>
      show ((change.apply table).after history).rule? op = _
      rw [ih, finalEntry, finalEntry, rule?_apply, List.flatMap_cons, latest?_append]
      cases latest? (history.flatMap Change.entries) op with
      | some entry => rfl
      | none => rfl

/-! ## What a walk asks for -/

-- By induction on the tree: at a node both tables do the same with the same two texts.

mutual

/-- Two tables with the same rules for the operators of a tree walk over it alike. -/
theorem walk_congr {table table' : Table} : ∀ {tree : Expr},
    (∀ n ∈ tree.nodes, table.rule? n.op = table'.rule? n.op) → table.walk tree = table'.walk tree
  | .node op left right, h => by
      rw [Expr.nodes] at h
      have hleft : table.walkOperand left = table'.walkOperand left :=
        walkOperand_congr fun n hn => h n (List.mem_append_left _ hn)
      have hright : table.walkOperand right = table'.walkOperand right :=
        walkOperand_congr fun n hn => h n (List.mem_append_right _ (List.mem_append_left _ hn))
      have hroot : table.rule? op = table'.rule? op :=
        h (.node op left right) (by simp)
      have hclose : table.close op = table'.close op := by
        funext l r
        exact close_congr hroot l r
      rw [walk, walk, hleft, hright, hclose]

/-- Two tables with the same rules for the operators of an operand walk over it alike. -/
theorem walkOperand_congr {table table' : Table} : ∀ {operand : Operand},
    (∀ n ∈ operand.nodes, table.rule? n.op = table'.rule? n.op) →
      table.walkOperand operand = table'.walkOperand operand
  | .expr _, h => by
      rw [walkOperand, walkOperand, walk_congr h]
  | .list _, h => by
      rw [walkOperand, walkOperand, walkAll_congr h]
  | .absent, _ | .range _, _ | .column _, _ | .value _, _ => by
      rw [walkOperand, walkOperand]

/-- Two tables with the same rules for the operators of several trees walk over them alike. -/
theorem walkAll_congr {table table' : Table} : ∀ {items : List Expr},
    (∀ n ∈ Expr.nodesAll items, table.rule? n.op = table'.rule? n.op) →
      table.walkAll items = table'.walkAll items
  | [], _ => by
      rw [walkAll, walkAll]
  | item :: rest, h => by
      rw [Expr.nodesAll] at h
      have hitem : table.walk item = table'.walk item :=
        walk_congr fun n hn => h n (List.mem_append_left _ hn)
      have hrest : table.walkAll rest = table'.walkAll rest :=
        walkAll_congr fun n hn => h n (List.mem_append_right _ hn)
      rw [walkAll, walkAll, hitem, hrest]

end

/-- Two tables with the same rules for the operators of a tree render it alike. -/
theorem render_congr {table table' : Table} {tree : Expr}
    (h : ∀ op ∈ tree.operators, table.rule? op = table'.rule? op) :
    table.render tree = table'.render tree := by
  have hnodes : ∀ n ∈ tree.nodes, table.rule? n.op = table'.rule? n.op :=
    fun n hn => h n.op (List.mem_map_of_mem hn)
  rw [render, render, walk_congr hnodes]

/-! ## Histories that end alike -/

/-- A change leaves an operator that it does not mention as it was, also among other changes. -/
theorem finalEntry_of_not_mentions (table : Table) (first second : List Change) {change : Change}
    {op : Operator} (h : ¬ change.Mentions op) :
    table.finalEntry (first ++ change :: second) op = table.finalEntry (first ++ second) op := by
  have hnone : latest? change.entries op = none := (latest?_eq_none_iff _ op).mpr h
  simp only [finalEntry, List.flatMap_append, List.flatMap_cons, latest?_append, hnone,
    Option.or_none]

/-- Two changes that mention no operator in common may change places. -/
theorem after_swap (table : Table) (first second : List Change) {change change' : Change}
    (h : ∀ op, change.Mentions op → ¬ change'.Mentions op) :
    table.after (first ++ change :: change' :: second) =
      table.after (first ++ change' :: change :: second) := by
  ext op : 1
  rw [rule?_after, rule?_after]
  -- whichever of the two does not mention the operator can be left out on both sides
  by_cases hmention : change.Mentions op
  · have hleft := finalEntry_of_not_mentions table (first ++ [change]) second (h op hmention)
    have hright := finalEntry_of_not_mentions table first (change :: second) (h op hmention)
    rw [List.append_assoc, List.append_assoc] at hleft
    exact hleft.trans hright.symm
  · have hleft := finalEntry_of_not_mentions table first (change' :: second) hmention
    have hright := finalEntry_of_not_mentions table (first ++ [change']) second hmention
    rw [List.append_assoc, List.append_assoc] at hright
    exact hleft.trans hright.symm

/-- **Only the last entry of the operators in use counts.** Two tables, each with a history of its
own, render a tree alike when its operators end with the same entries. So a change that mentions no
operator of the tree can be left out of a history, and two changes without a common operator can
change places. -/
theorem render_after_congr (table table' : Table) (history history' : List Change) (tree : Expr) :
    (∀ op, (table.after history).rule? op = table.finalEntry history op) ∧
    ((∀ op ∈ tree.operators, table.finalEntry history op = table'.finalEntry history' op) →
      (table.after history).render tree = (table'.after history').render tree) ∧
    (∀ first second change, (∀ op ∈ tree.operators, ¬ change.Mentions op) →
      (table.after (first ++ change :: second)).render tree =
        (table.after (first ++ second)).render tree) ∧
    (∀ first second change change',
      (∀ op, change.Mentions op → ¬ change'.Mentions op) →
      table.after (first ++ change :: change' :: second) =
        table.after (first ++ change' :: change :: second)) := by
  refine ⟨rule?_after table history, ?_, ?_, ?_⟩
  · intro hsame
    refine render_congr fun op hop => ?_
    rw [rule?_after, rule?_after, hsame op hop]
  · intro first second change hunused
    refine render_congr fun op hop => ?_
    rw [rule?_after, rule?_after, finalEntry_of_not_mentions table first second (hunused op hop)]
  · intro first second change change' hapart
    exact after_swap table first second hapart

/-- Of two rules for one operator in the same change the later one counts, and it is gone once the
operator is erased. -/
example : (Table.shared.finalEntry
    [.insertAll [(.fuzzy, .pass), (.boost, .literal), (.fuzzy, .list)], .erase .boost] .fuzzy,
      (Table.shared.finalEntry [.insert .boost .pass, .erase .boost] .boost).isSome) =
    (some .list, false) := by
  rfl

end Table

end SqlFilter
