import SqlFilter.Query.Basic
import Mathlib.Tactic

set_option autoImplicit false

/-! # The nodes of a query tree in post-order

`Expr.nodes` lists every node of a tree, each with the tree below it: first the nodes of the left
operand, then those of the right one, the items of a list in their order, and the node itself last.
A node stands behind the nodes below it, and what is listed for a node of a tree is listed for the
tree as well. `Expr.operators` are the operators of the nodes.
-/

namespace SqlFilter

mutual

/-- The nodes of a tree, the root last. -/
def Expr.nodes : Expr → List Expr
  | .node op left right => left.nodes ++ (right.nodes ++ [.node op left right])

/-- The nodes of the trees in an operand. -/
def Operand.nodes : Operand → List Expr
  | .expr tree => tree.nodes
  | .list items => Expr.nodesAll items
  | .absent | .range _ | .column _ | .value _ => []

/-- The nodes of several trees, one tree after another. -/
def Expr.nodesAll : List Expr → List Expr
  | [] => []
  | item :: rest => item.nodes ++ Expr.nodesAll rest

end

/-- The operators that occur in a tree, one for each node. -/
def Expr.operators (tree : Expr) : List Operator :=
  tree.nodes.map Expr.op

mutual

/-- The nodes below a node of a tree are nodes of that tree. -/
theorem Expr.nodes_subset_of_mem {n : Expr} :
    ∀ {tree : Expr}, n ∈ tree.nodes → n.nodes ⊆ tree.nodes
  | .node op left right, h => by
      rw [Expr.nodes, List.mem_append, List.mem_append, List.mem_singleton] at h
      rcases h with h | h | rfl
      · rw [Expr.nodes]
        exact fun m hm => List.mem_append_left _ (Operand.nodes_subset_of_mem h hm)
      · rw [Expr.nodes]
        exact fun m hm =>
          List.mem_append_right _ (List.mem_append_left _ (Operand.nodes_subset_of_mem h hm))
      · exact fun m hm => hm

/-- The nodes below a node of an operand are nodes of that operand. -/
theorem Operand.nodes_subset_of_mem {n : Expr} :
    ∀ {operand : Operand}, n ∈ operand.nodes → n.nodes ⊆ operand.nodes
  | .expr _, h => Expr.nodes_subset_of_mem h
  | .list _, h => Expr.nodesAll_subset_of_mem h
  | .absent, h | .range _, h | .column _, h | .value _, h => nomatch h

/-- The nodes below a node of some trees are nodes of those trees. -/
theorem Expr.nodesAll_subset_of_mem {n : Expr} :
    ∀ {items : List Expr}, n ∈ Expr.nodesAll items → n.nodes ⊆ Expr.nodesAll items
  | [], h => nomatch h
  | item :: rest, h => by
      rw [Expr.nodesAll, List.mem_append] at h
      rw [Expr.nodesAll]
      rcases h with h | h
      · exact fun m hm => List.mem_append_left _ (Expr.nodes_subset_of_mem h hm)
      · exact fun m hm => List.mem_append_right _ (Expr.nodesAll_subset_of_mem h hm)

end

end SqlFilter
