import SqlFilter.Query.Build

set_option autoImplicit false

/-! # The depth of a query tree and the chains in it

`Expr.children` are the trees that stand directly below a node, on either side, as a nested tree or
as items of a list. A chain goes from a node to one of its children, as far down as it likes
(`Expr.IsChain`). The depth of a node is one more than the greatest depth of its children
(`Expr.depth_eq`), and from that equation alone it follows that the longest chains have as many
nodes as the depth says (`Expr.longest_chain`).
-/

namespace SqlFilter

/-! ## Children -/

/-- The trees that stand directly in an operand. -/
def Operand.trees : Operand → List Expr
  | .expr tree => [tree]
  | .list items => items
  | .absent | .range _ | .column _ | .value _ => []

/-- The trees that stand directly below the root. -/
def Expr.children (e : Expr) : List Expr :=
  e.left.trees ++ e.right.trees

/-! ## The greatest depth of some trees -/

theorem Expr.depths_append (first second : List Expr) :
    Expr.depths (first ++ second) = max (Expr.depths first) (Expr.depths second) := by
  induction first with
  | nil => exact (Nat.zero_max _).symm
  | cons item rest ih => rw [List.cons_append, Expr.depths, Expr.depths, ih, Nat.max_assoc]

theorem Expr.depth_le_depths {items : List Expr} {item : Expr} (h : item ∈ items) :
    item.depth ≤ Expr.depths items := by
  induction items with
  | nil => exact absurd h List.not_mem_nil
  | cons first rest ih =>
      rw [Expr.depths]
      rcases List.mem_cons.mp h with rfl | h
      · exact Nat.le_max_left _ _
      · exact Nat.le_trans (ih h) (Nat.le_max_right _ _)

/-- One of several trees is the deepest. -/
theorem Expr.exists_depth_eq_depths {items : List Expr} (h : items ≠ []) :
    ∃ item ∈ items, item.depth = Expr.depths items := by
  induction items with
  | nil => exact absurd rfl h
  | cons first rest ih =>
      rw [Expr.depths]
      by_cases hfirst : Expr.depths rest ≤ first.depth
      · exact ⟨first, List.mem_cons_self, (Nat.max_eq_left hfirst).symm⟩
      · -- a list without trees has depth `0`, so the rest is not empty
        have hrest : rest ≠ [] := by
          rintro rfl
          exact hfirst (Nat.zero_le _)
        obtain ⟨item, hitem, hdepth⟩ := ih hrest
        refine ⟨item, List.mem_cons_of_mem first hitem, ?_⟩
        rw [hdepth, Nat.max_eq_right (Nat.le_of_not_le hfirst)]

theorem Operand.depth_eq (operand : Operand) : operand.depth = Expr.depths operand.trees := by
  cases operand with
  | expr tree => exact (Nat.max_zero _).symm
  | list items => rfl
  | absent => rfl
  | range boundary => rfl
  | column column => rfl
  | value scalar => rfl

/-- A node is one level deeper than the deepest of its children. -/
theorem Expr.depth_eq (e : Expr) : e.depth = 1 + Expr.depths e.children := by
  cases e with
  | node op left right =>
      rw [Expr.depth, Operand.depth_eq left, Operand.depth_eq right, Expr.children,
        Expr.left_node, Expr.right_node, Expr.depths_append]

theorem Expr.depth_lt_of_mem_children {e child : Expr} (h : child ∈ e.children) :
    child.depth < e.depth := by
  have hle := Expr.depth_le_depths h
  rw [e.depth_eq]
  omega

/-! ## Chains -/

/-- The nodes lead from a tree downwards, each to one of its children. -/
inductive Expr.IsChain : Expr → List Expr → Prop
  | root (e : Expr) : Expr.IsChain e [e]
  | down {e child : Expr} {nodes : List Expr} (hchild : child ∈ e.children)
      (hnodes : Expr.IsChain child nodes) : Expr.IsChain e (e :: nodes)

theorem Expr.IsChain.length_le {e : Expr} {nodes : List Expr} (h : e.IsChain nodes) :
    nodes.length ≤ e.depth := by
  induction h with
  | root e =>
      rw [e.depth_eq, List.length_singleton]
      omega
  | down hchild hnodes ih =>
      have hlt := Expr.depth_lt_of_mem_children hchild
      rw [List.length_cons]
      omega

/-- The chain that goes to the deepest child each time ends at a node without children. -/
theorem Expr.exists_chain (e : Expr) : ∃ above leaf, e.IsChain (above ++ [leaf]) ∧
    leaf.children = [] ∧ (above ++ [leaf]).length = e.depth := by
  by_cases hchildren : e.children = []
  · refine ⟨[], e, .root e, hchildren, ?_⟩
    rw [e.depth_eq, hchildren]
    rfl
  · obtain ⟨child, hchild, hdeepest⟩ := Expr.exists_depth_eq_depths hchildren
    have hlt := Expr.depth_lt_of_mem_children hchild
    obtain ⟨above, leaf, hchain, hleaf, hlength⟩ := Expr.exists_chain child
    refine ⟨e :: above, leaf, .down hchild hchain, hleaf, ?_⟩
    rw [List.cons_append, List.length_cons, hlength, hdeepest, e.depth_eq, Nat.add_comm]
termination_by e.depth

/-- **The depth is the length of the longest chains.** Some chain from the root to a node without
children has as many nodes as the depth of the tree, and no chain from the root has more. -/
theorem Expr.longest_chain (e : Expr) :
    (∃ above leaf, e.IsChain (above ++ [leaf]) ∧ leaf.children = [] ∧
      (above ++ [leaf]).length = e.depth) ∧
    ∀ nodes, e.IsChain nodes → nodes.length ≤ e.depth :=
  ⟨e.exists_chain, fun _ h => h.length_le⟩

/-- The items of a membership test stand in a list node of their own. -/
example : (Expr.inList (.column ⟨"a"⟩) [.literal (.value (.int 1))]).depth = 3 := rfl

end SqlFilter
