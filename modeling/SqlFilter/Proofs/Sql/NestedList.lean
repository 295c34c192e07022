import SqlFilter.Query.Build
import SqlFilter.Proofs.Sql.PassThrough
import SqlFilter.Proofs.Walk.Sequence

set_option autoImplicit false

/-! # Lists in lists

A list node may hold list nodes, to any depth. `Expr.listLeavesAll` are the trees of other kinds in
it, from left to right, and the list of just these has the same outcome. All levels are joined by
the same separator, so a row of items may be cut anywhere and either part be exchanged for a row
that is joined to the same text (`Table.JoinsAs.append`), as long as an empty row is exchanged for an
empty one only: where an inner list has no items, the text around it still has the separators on
both sides.
-/

namespace SqlFilter

/-! ## The leaves of a list -/

mutual

/-- The leaves of a list node, from left to right. A tree of any other kind is a leaf. -/
def Expr.listLeaves : Expr → List Expr
  | .node .list (.list items) .absent => Expr.listLeavesAll items
  | tree => [tree]

/-- The leaves of several trees, one tree after another. -/
def Expr.listLeavesAll : List Expr → List Expr
  | [] => []
  | item :: rest => item.listLeaves ++ Expr.listLeavesAll rest

end

mutual

/-- A list node has items, and so has every list node in it. -/
def Expr.IsFilled : Expr → Prop
  | .node .list (.list items) .absent => items ≠ [] ∧ Expr.AreFilled items
  | _ => True

/-- Every list node among the trees and in them has items. -/
def Expr.AreFilled : List Expr → Prop
  | [] => True
  | item :: rest => item.IsFilled ∧ Expr.AreFilled rest

end

@[simp] theorem Expr.listLeaves_list (items : List Expr) :
    (Expr.list items).listLeaves = Expr.listLeavesAll items := by
  rw [list, unary, listLeaves]

theorem Expr.listLeaves_of_ne {tree : Expr} (h : ∀ items, tree ≠ .list items) :
    tree.listLeaves = [tree] :=
  listLeaves.eq_2 tree h

/-- No leaf is a list node. -/
theorem Expr.ne_list_of_mem_listLeavesAll (leaf : Expr) (inner : List Expr) :
    ∀ items, leaf ∈ Expr.listLeavesAll items → leaf ≠ .list inner := by
  refine (Expr.listLeaves.mutual_induct (fun tree => leaf ∈ tree.listLeaves → leaf ≠ .list inner)
    (fun items => leaf ∈ Expr.listLeavesAll items → leaf ≠ .list inner) ?list ?leaf ?nil ?cons).2
  case list =>
    intro items ih h
    exact ih (listLeaves_list items ▸ h)
  case leaf =>
    intro tree hother h
    rw [listLeaves_of_ne hother, List.mem_singleton] at h
    rw [h]
    exact hother inner
  case nil => exact fun h => nomatch h
  case cons =>
    intro item rest ihitem ihrest h
    rw [listLeavesAll, List.mem_append] at h
    exact h.elim ihitem ihrest

/-! ## Joining rows of items -/

namespace Table

/-- The items of a list are joined by a comma and a space. -/
theorem joinItems_eq_intercalate (texts : List String) :
    joinItems texts = ", ".intercalate texts := by
  induction texts with
  | nil => rw [joinItems, String.intercalate_nil]
  | cons text texts ih =>
      cases texts with
      | nil => rw [joinItems, String.intercalate_singleton]
      | cons text' texts =>
          rw [joinItems, ih, String.intercalate_cons_cons]
          exact fun h => nomatch h

variable {table : Table}

/-- The text of two rows of items, if neither is empty, is that of the first, a separator and that
of the second. -/
theorem map_joinItems_append {items items' : List Expr} (h : items ≠ []) (h' : items' ≠ []) :
    (table.renderAll (items ++ items')).map joinItems =
      ((table.renderAll items).map joinItems).bind fun text =>
        ((table.renderAll items').map joinItems).map fun text' => text ++ ", " ++ text' := by
  rw [renderAll_append]
  cases htexts : table.renderAll items with
  | error e => rfl
  | ok texts =>
      cases htexts' : table.renderAll items' with
      | error e => rfl
      | ok texts' =>
          have hne : texts ≠ [] := by
            rintro rfl
            exact h (List.forall₂_nil_right_iff.mp (renderAll_eq_ok_iff.mp htexts))
          have hne' : texts' ≠ [] := by
            rintro rfl
            exact h' (List.forall₂_nil_right_iff.mp (renderAll_eq_ok_iff.mp htexts'))
          show Except.ok (joinItems (texts ++ texts')) =
            Except.ok (joinItems texts ++ ", " ++ joinItems texts')
          rw [joinItems_eq_intercalate, String.intercalate_append_of_ne_nil hne hne',
            joinItems_eq_intercalate, joinItems_eq_intercalate]

/-- A row of items is joined to the same text as another, or fails in the same way; and one is empty
only if the other is. -/
def JoinsAs (table : Table) (items items' : List Expr) : Prop :=
  (items = [] ↔ items' = []) ∧
    (table.renderAll items).map joinItems = (table.renderAll items').map joinItems

theorem JoinsAs.refl (items : List Expr) : table.JoinsAs items items :=
  ⟨Iff.rfl, rfl⟩

/-- Both parts of a row may be exchanged. -/
theorem JoinsAs.append {items items' more more' : List Expr} (h : table.JoinsAs items items')
    (hmore : table.JoinsAs more more') : table.JoinsAs (items ++ more) (items' ++ more') := by
  refine ⟨by rw [List.append_eq_nil_iff, List.append_eq_nil_iff, h.1, hmore.1], ?_⟩
  by_cases hitems : items = []
  · rw [hitems, h.1.mp hitems]
    exact hmore.2
  · by_cases hnone : more = []
    · rw [hnone, hmore.1.mp hnone, List.append_nil, List.append_nil]
      exact h.2
    · rw [map_joinItems_append hitems hnone, h.2, hmore.2,
        map_joinItems_append (mt h.1.mpr hitems) (mt hmore.1.mpr hnone)]

/-- A row of one item has the text of the item. -/
theorem map_joinItems_singleton (item : Expr) :
    (table.renderAll [item]).map joinItems = table.render item := by
  rw [renderAll_cons, renderAll_nil]
  cases table.render item <;> rfl

namespace IsStandard

variable (htable : table.IsStandard)

include htable

/-- A list node has the text of its row of items. -/
theorem render_list (items : List Expr) :
    table.render (.list items) = (table.renderAll items).map joinItems := by
  rw [Expr.list, htable.render_unary_of_isPassing (by decide), renderOperand_list]

/-- A row of items is joined to the same text as the row of its leaves. -/
theorem joinsAs_listLeavesAll :
    ∀ items, Expr.AreFilled items → table.JoinsAs items (Expr.listLeavesAll items) := by
  refine (Expr.listLeaves.mutual_induct
    (fun tree => tree.IsFilled → table.JoinsAs [tree] tree.listLeaves)
    (fun items => Expr.AreFilled items → table.JoinsAs items (Expr.listLeavesAll items))
    ?list ?leaf ?nil ?cons).2
  case list =>
    intro items ih h
    rw [Expr.IsFilled] at h
    obtain ⟨hempty, hjoin⟩ := ih h.2
    have hrender : (table.renderAll [.list items]).map joinItems =
        (table.renderAll (Expr.listLeavesAll items)).map joinItems := by
      rw [map_joinItems_singleton, htable.render_list, hjoin]
    exact ⟨iff_of_false (List.cons_ne_nil _ _) (mt hempty.mpr h.1), hrender⟩
  case leaf =>
    intro tree hother _
    rw [Expr.listLeaves_of_ne hother]
    exact .refl [tree]
  case nil => exact fun _ => .refl []
  case cons =>
    intro item rest ihitem ihrest h
    rw [Expr.AreFilled] at h
    exact (ihitem h.1).append (ihrest h.2)

end IsStandard

/-- **Nested lists flatten.** Under a standard table a list node without empty lists in it has the
outcome of the list of its leaves, none of which is a list node: their texts joined by a comma and a
space, or the error of the first leaf that fails. A membership test cannot tell the two lists. -/
theorem render_list_flattened (table : Table) (htable : table.IsStandard) (items : List Expr)
    (hfilled : Expr.AreFilled items) :
    (∀ leaf ∈ Expr.listLeavesAll items, ∀ inner, leaf ≠ .list inner) ∧
    table.render (.list items) = table.render (.list (Expr.listLeavesAll items)) ∧
    (∀ sql, table.render (.list items) = .ok sql ↔
      ∃ texts, List.Forall₂ (fun leaf text => table.render leaf = .ok text)
        (Expr.listLeavesAll items) texts ∧ sql = ", ".intercalate texts) ∧
    (∀ e, table.render (.list items) = .error e ↔
      ∃ before leaf after, Expr.listLeavesAll items = before ++ leaf :: after ∧
        (∀ leaf' ∈ before, ∃ text, table.render leaf' = .ok text) ∧
        table.render leaf = .error e) ∧
    ∀ left, table.render (.inList left items) =
        table.render (.inList left (Expr.listLeavesAll items)) ∧
      table.render (.node .inList left (.list items)) =
        table.render (.node .inList left (.list (Expr.listLeavesAll items))) := by
  have hjoin := (htable.joinsAs_listLeavesAll items hfilled).2
  have hsame : table.render (.list items) = table.render (.list (Expr.listLeavesAll items)) := by
    rw [htable.render_list, htable.render_list, hjoin]
  have hflat : ∀ leaf ∈ Expr.listLeavesAll items, ∀ inner, leaf ≠ .list inner :=
    fun leaf hleaf inner => Expr.ne_list_of_mem_listLeavesAll leaf inner items hleaf
  refine ⟨hflat, hsame, fun sql => ?_, fun e => ?_, fun left => ⟨?_, ?_⟩⟩
  · simp only [hsame, htable.render_list, map_eq_ok_iff, renderAll_eq_ok_iff,
      joinItems_eq_intercalate]
  · rw [hsame, htable.render_list, map_eq_error_iff, renderAll_eq_error_iff]
  · refine render_node_congr _ rfl ?_
    rw [renderOperand_expr, renderOperand_expr, hsame]
  · refine render_node_congr _ rfl ?_
    rw [renderOperand_list, renderOperand_list, hjoin]

/-- Lists of three depths in a membership test. -/
theorem render_list_flattened_membership :
    Expr.AreFilled [.list [.list [.column "a"], .column "b"], .column "c"] ∧
    shared.render (.inList (.column ⟨"n"⟩)
      [.list [.list [.column "a"], .column "b"], .column "c"]) = .ok "n IN (a, b, c)" := by
  have hfilled : Expr.AreFilled [.list [.list [.column "a"], .column "b"], .column "c"] := by
    simp [Expr.list, Expr.column, Expr.literal, Expr.unary, Expr.AreFilled, Expr.IsFilled]
  refine ⟨hfilled, ?_⟩
  rw [((render_list_flattened shared isStandard_shared _ hfilled).2.2.2.2 (.column ⟨"n"⟩)).1]
  rfl

/-- An empty list among the items leaves a gap. -/
example : shared.render (.list [.column "a", .list [], .column "b"]) = .ok "a, , b" := by
  rfl

end Table

end SqlFilter
