import SqlFilter.Proofs.Sql.LeafOrder
import SqlFilter.Proofs.Sql.PlainOperand

set_option autoImplicit false

/-! # Balanced parentheses

Parentheses come into the SQL text with negations and lists, and the brackets of a boundary are
taken off again before its bounds are used. So the text of a tree is balanced when its own names,
strings and bounds hold no bracket and every boundary is the right operand of a range node
(`Expr.IsOrderly`): anywhere else the text of a boundary would stay as it is, with its brackets. The
induction is on the tree. Balanced texts are closed under append (`IsBalanced.append`), so the
condition of a range may write its left text twice.
-/

namespace SqlFilter

/-! ## Texts without brackets -/

/-- A parenthesis or a square bracket. -/
def IsBracket (c : Char) : Prop :=
  c = '(' ∨ c = ')' ∨ c = '[' ∨ c = ']'

instance (c : Char) : Decidable (IsBracket c) :=
  inferInstanceAs (Decidable (_ ∨ _ ∨ _ ∨ _))

/-- A text without brackets. -/
def IsFlat (text : String) : Prop :=
  ∀ c ∈ text.toList, ¬ IsBracket c

instance (text : String) : Decidable (IsFlat text) :=
  List.decidableBAll (fun c => ¬ IsBracket c) text.toList

namespace IsFlat

theorem append {text text' : String} (h : IsFlat text) (h' : IsFlat text') :
    IsFlat (text ++ text') := by
  intro c hc
  rw [String.toList_append, List.mem_append] at hc
  exact hc.elim (h c) (h' c)

theorem trim {text : String} (h : IsFlat text) :
    IsFlat (String.ofList (Text.trim text.toList)) := by
  intro c hc
  rw [String.toList_ofList, Text.trim, List.mem_reverse] at hc
  have hstart := (List.dropWhile_sublist Text.isBlank).subset hc
  rw [List.mem_reverse] at hstart
  exact h c ((List.dropWhile_sublist Text.isBlank).subset hstart)

end IsFlat

theorem Operator.isFlat_spelling (op : Operator) : IsFlat op.spelling := by
  cases op <;> decide

theorem Column.isFlat_sql {column : Column} (h : IsFlat column.name) : IsFlat column.sql := by
  rw [sql]
  split
  · exact (IsFlat.append (by decide) h).append (by decide)
  · exact h

theorem Scalar.isFlat_sql {scalar : Scalar} (h : ∀ value, scalar = .string value → IsFlat value) :
    IsFlat scalar.sql := by
  by_cases hstring : ∃ value, scalar = .string value
  · obtain ⟨value, rfl⟩ := hstring
    exact (IsFlat.append (by decide) (h value rfl)).append (by decide)
  · intro c hc hbracket
    have hbare := isBare_of_mem_sql (fun value heq => hstring ⟨value, heq⟩) c hc
    rcases hbracket with rfl | rfl | rfl | rfl <;> exact absurd hbare (by decide)

/-! ## Balanced texts -/

/-- No square brackets, and parentheses that match: no beginning of the text closes more of them
than it opens, and the whole text closes them all. -/
structure IsBalanced (text : String) : Prop where
  no_square : '[' ∉ text.toList ∧ ']' ∉ text.toList
  opened : ∀ start : List Char, start <+: text.toList → start.count ')' ≤ start.count '('
  closed : text.toList.count '(' = text.toList.count ')'

/-- A beginning of two texts ends in the first of them or in the second. -/
theorem prefix_append_cases {start first second : List Char} (h : start <+: first ++ second) :
    start <+: first ∨ ∃ rest, rest <+: second ∧ start = first ++ rest := by
  rcases List.prefix_or_prefix_of_prefix h (List.prefix_append first second) with hshort | hlong
  · exact .inl hshort
  · obtain ⟨rest, rfl⟩ := hlong
    exact .inr ⟨rest, (List.prefix_append_right_inj first).mp h, rfl⟩

theorem IsFlat.isBalanced {text : String} (h : IsFlat text) : IsBalanced text := by
  have hopening : '(' ∉ text.toList := fun hmem => h _ hmem (by decide)
  have hclosing : ')' ∉ text.toList := fun hmem => h _ hmem (by decide)
  refine ⟨⟨fun hmem => h _ hmem (by decide), fun hmem => h _ hmem (by decide)⟩, ?_, ?_⟩
  · intro start hstart
    rw [List.count_eq_zero_of_not_mem fun hmem => hclosing (hstart.subset hmem)]
    exact Nat.zero_le _
  · rw [List.count_eq_zero_of_not_mem hopening, List.count_eq_zero_of_not_mem hclosing]

namespace IsBalanced

theorem append {text text' : String} (h : IsBalanced text) (h' : IsBalanced text') :
    IsBalanced (text ++ text') := by
  refine ⟨?_, ?_, ?_⟩
  · rw [String.toList_append, List.mem_append, List.mem_append, not_or, not_or]
    exact ⟨⟨h.no_square.1, h'.no_square.1⟩, h.no_square.2, h'.no_square.2⟩
  · intro start hstart
    rw [String.toList_append] at hstart
    rcases prefix_append_cases hstart with hfirst | ⟨rest, hrest, rfl⟩
    · exact h.opened start hfirst
    · have hlater := h'.opened rest hrest
      have hclosed := h.closed
      rw [List.count_append, List.count_append]
      omega
  · rw [String.toList_append, List.count_append, List.count_append, h.closed, h'.closed]

/-- A balanced text in parentheses. In front of the closing one every beginning has one parenthesis
to spare. -/
theorem enclose {text : String} (h : IsBalanced text) : IsBalanced ("(" ++ text ++ ")") := by
  have hlist : ("(" ++ text ++ ")").toList = '(' :: (text.toList ++ [')']) := by
    simp
  refine ⟨?_, ?_, ?_⟩
  · rw [hlist]
    simp [h.no_square]
  · intro start hstart
    rw [hlist, List.prefix_cons_iff] at hstart
    rcases hstart with rfl | ⟨rest, rfl, hrest⟩
    · simp
    · rw [List.count_cons_of_ne (by decide), List.count_cons_self]
      rcases prefix_append_cases hrest with hinner | ⟨last, hlast, rfl⟩
      · exact Nat.le_succ_of_le (h.opened rest hinner)
      · have hcount : last.count ')' ≤ 1 := hlast.sublist.count_le ')'
        have hclosed := h.closed
        rw [List.count_append, List.count_append]
        omega
  · rw [hlist]
    simp [h.closed]

/-- A text without brackets behind a balanced one. -/
theorem append_flat {text word : String} (h : IsBalanced text) (hword : IsFlat word) :
    IsBalanced (text ++ word) :=
  h.append hword.isBalanced

theorem joinItems {texts : List String} (h : ∀ text ∈ texts, IsBalanced text) :
    IsBalanced (Table.joinItems texts) := by
  induction texts with
  | nil => exact IsFlat.isBalanced (by decide)
  | cons text rest ih =>
      rw [List.forall_mem_cons] at h
      cases rest with
      | nil => exact h.1
      | cons second rest => exact (h.1.append_flat (by decide)).append (ih h.2)

/-- The condition of a range is made of its left text, its bounds and words. -/
theorem condition {left : String} (h : IsBalanced left) {b : Boundary} (hmin : IsFlat b.min)
    (hmax : IsFlat b.max) : IsBalanced (b.condition left) := by
  rw [Boundary.condition_eq]
  split
  · exact h.append_flat (by decide)
  · split
    · split
      · exact (h.append_flat (by decide)).append_flat hmax
      · exact (h.append_flat (by decide)).append_flat hmax
    · split
      · split
        · exact (h.append_flat (by decide)).append_flat hmin
        · exact (h.append_flat (by decide)).append_flat hmin
      · split
        · have hlow := (h.append_flat (by decide : IsFlat " BETWEEN ")).append_flat hmin
          exact (hlow.append_flat (by decide)).append_flat hmax
        · -- the left text stands in front of both bounds
          have hlow := (h.append_flat (by decide : IsFlat " > ")).append_flat hmin
          have hagain := (hlow.append_flat (by decide : IsFlat " AND ")).append h
          exact (hagain.append_flat (by decide)).append_flat hmax

end IsBalanced

/-! ## Trees whose own texts hold no bracket -/

/-- The names, strings and bounds of an operand, its trees apart, hold no bracket. -/
def Operand.IsClear : Operand → Prop
  | .column ⟨name⟩ => IsFlat name
  | .value (.string text) => IsFlat text
  | .range boundary => IsFlat boundary.min ∧ IsFlat boundary.max
  | _ => True

/-- A node has a boundary on its right exactly when it is a range, and never on its left, and its
own texts hold no bracket. -/
structure Expr.IsOrderly (n : Expr) : Prop where
  left_ne : ∀ b, n.left ≠ .range b
  right_iff : (∃ b, n.right = .range b) ↔ n.op = .range
  left_clear : n.left.IsClear
  right_clear : n.right.IsClear

namespace Table

variable {table : Table}

/-- The last step at a node keeps its text balanced. -/
theorem IsStandard.balanced_close (htable : table.IsStandard) {op : Operator}
    {left right : Operand} (hnode : (Expr.node op left right).IsOrderly) {rule : Rule}
    (hrule : table.rule? op = some rule) {l r sql : String}
    (hr : table.renderOperand right = .ok r) (happly : rule.apply l r = .ok sql)
    (hleft : IsBalanced l) (hright : op ≠ .range → IsBalanced r) : IsBalanced sql := by
  rcases htable.apply_cases hrule happly with ⟨hop, rfl⟩ | ⟨hop, rfl⟩ | ⟨hop, rfl⟩ |
    ⟨rfl, boundary, hread, rfl⟩ | ⟨rfl, rfl⟩
  · exact hleft
  · have hinner : IsBalanced (if r.isEmpty then l else r) := by
      split
      · exact hleft
      · exact hright hop.ne_range
    have hword : IsFlat "NOT" := by decide
    simpa only [String.append_assoc] using hword.isBalanced.append hinner.enclose
  · have hword : IsFlat (" " ++ op.spelling ++ " ") :=
      (IsFlat.append (by decide) op.isFlat_spelling).append (by decide)
    have hjoin := (hleft.append_flat hword).append (hright hop.ne_range)
    simpa only [String.append_assoc] using hjoin
  · obtain ⟨b, hb⟩ := hnode.right_iff.mpr rfl
    obtain rfl : right = .range b := hb
    rw [renderOperand_range] at hr
    obtain rfl := Except.ok.inj hr
    obtain rfl := Boundary.eq_trimmed_of_ofText?_text hread
    have hclear : IsFlat b.min ∧ IsFlat b.max := hnode.right_clear
    exact hleft.condition hclear.1.trim hclear.2.trim
  · have hword : IsFlat " IN " := by decide
    have hlist := (hleft.append_flat hword).append (hright (by decide)).enclose
    have hparts : " IN (" = " IN " ++ "(" := rfl
    rw [hparts]
    simpa only [String.append_assoc] using hlist

-- By induction on the tree: the texts of the operands are balanced before that of the node. The
-- text of a boundary is not, so it is left to the node that the boundary belongs to.

mutual

theorem balanced_render (htable : table.IsStandard) : ∀ {tree : Expr},
    (∀ n ∈ tree.nodes, n.IsOrderly) → ∀ {sql : String}, table.render tree = .ok sql →
      IsBalanced sql
  | .node op left right, horderly, sql, h => by
      rw [Expr.nodes] at horderly
      obtain ⟨rule, l, r, hrule, hl, hr, happly⟩ := table.render_node_eq_ok_iff.mp h
      have hroot : (Expr.node op left right).IsOrderly := horderly _ (by simp)
      have hleft : IsBalanced l :=
        balanced_renderOperand htable (fun n hn => horderly n (List.mem_append_left _ hn))
          hroot.left_ne hroot.left_clear hl
      have hright : op ≠ .range → IsBalanced r := fun hop =>
        balanced_renderOperand htable
          (fun n hn => horderly n (List.mem_append_right _ (List.mem_append_left _ hn)))
          (fun b hb => hop (hroot.right_iff.mp ⟨b, hb⟩)) hroot.right_clear hr
      exact htable.balanced_close hroot hrule hr happly hleft hright

theorem balanced_renderOperand (htable : table.IsStandard) : ∀ {operand : Operand},
    (∀ n ∈ operand.nodes, n.IsOrderly) → (∀ b, operand ≠ .range b) → operand.IsClear →
      ∀ {text : String}, table.renderOperand operand = .ok text → IsBalanced text
  | .expr tree, horderly, _, _, text, h => by
      rw [renderOperand_expr] at h
      exact balanced_render htable horderly h
  | .list items, horderly, _, _, text, h => by
      rw [renderOperand_list] at h
      cases htexts : table.renderAll items with
      | error e => rw [htexts] at h; cases h
      | ok texts =>
          rw [htexts] at h
          obtain rfl := Except.ok.inj h
          exact IsBalanced.joinItems (balanced_renderAll htable horderly htexts)
  | .absent, _, _, _, text, h => by
      rw [renderOperand_absent] at h
      obtain rfl := Except.ok.inj h
      exact IsFlat.isBalanced (by decide)
  | .range boundary, _, hne, _, _, _ => absurd rfl (hne boundary)
  | .column column, _, _, hclear, text, h => by
      rw [renderOperand_column] at h
      obtain rfl := Except.ok.inj h
      exact (Column.isFlat_sql hclear).isBalanced
  | .value scalar, _, _, hclear, text, h => by
      rw [renderOperand_value] at h
      obtain rfl := Except.ok.inj h
      refine (Scalar.isFlat_sql ?_).isBalanced
      rintro value rfl
      exact hclear

theorem balanced_renderAll (htable : table.IsStandard) : ∀ {items : List Expr},
    (∀ n ∈ Expr.nodesAll items, n.IsOrderly) → ∀ {texts : List String},
      table.renderAll items = .ok texts → ∀ text ∈ texts, IsBalanced text
  | [], _, texts, h => by
      rw [renderAll_nil] at h
      obtain rfl := Except.ok.inj h
      exact List.forall_mem_nil _
  | item :: rest, horderly, texts, h => by
      rw [Expr.nodesAll] at horderly
      rw [renderAll_cons] at h
      cases hitem : table.render item with
      | error e => rw [hitem] at h; cases h
      | ok text =>
          cases hrest : table.renderAll rest with
          | error e => rw [hitem, hrest] at h; cases h
          | ok texts' =>
              rw [hitem, hrest] at h
              obtain rfl := Except.ok.inj h
              have hfirst : IsBalanced text :=
                balanced_render htable (fun n hn => horderly n (List.mem_append_left _ hn)) hitem
              exact List.forall_mem_cons.mpr ⟨hfirst, balanced_renderAll htable
                (fun n hn => horderly n (List.mem_append_right _ hn)) hrest⟩

end

/-- **The text of a tree is balanced.** A standard table is given a tree that has boundaries on the
right of its range nodes and nowhere else, and no brackets in its names, strings and bounds. If it
has a text, no square bracket is left in it, no beginning of it closes more parentheses than it
opens, and all of them are closed. -/
theorem render_balanced (table : Table) (htable : table.IsStandard) (tree : Expr)
    (horderly : ∀ n ∈ tree.nodes, n.IsOrderly) (sql : String) (h : table.render tree = .ok sql) :
    ('[' ∉ sql.toList ∧ ']' ∉ sql.toList) ∧
    (∀ start : List Char, start <+: sql.toList → start.count ')' ≤ start.count '(') ∧
    sql.toList.count '(' = sql.toList.count ')' := by
  have hbalanced := balanced_render htable horderly h
  exact ⟨hbalanced.no_square, hbalanced.opened, hbalanced.closed⟩

/-- A boundary under another operator keeps its brackets. -/
example : shared.render (.literal (.range (.closed "1" "2"))) = .ok "[1, 2]" := rfl

/-- A list in a negation stands beside a range that writes a list of its own twice. -/
theorem render_balanced_nested :
    (∀ n ∈ (Expr.and (.mustNot (.inList (.column ⟨"a b"⟩) [.literal (.value (.string "c"))]))
      (.range (.expr (.inList (.column ⟨"n"⟩) [])) (.strict " 1" "9"))).nodes, n.IsOrderly) ∧
    let sql := "NOT(\"a b\" IN ('c')) AND n IN () > 1 AND n IN () < 9"
    ('[' ∉ sql.toList ∧ ']' ∉ sql.toList) ∧
    (∀ start : List Char, start <+: sql.toList → start.count ')' ≤ start.count '(') ∧
    sql.toList.count '(' = sql.toList.count ')' := by
  have horderly : ∀ n ∈ (Expr.and (.mustNot (.inList (.column ⟨"a b"⟩)
      [.literal (.value (.string "c"))]))
      (.range (.expr (.inList (.column ⟨"n"⟩) [])) (.strict " 1" "9"))).nodes, n.IsOrderly := by
    intro n hn
    simp only [Expr.nodes, Operand.nodes, Expr.nodesAll, Expr.and, Expr.range, Expr.mustNot,
      Expr.inList, Expr.list, Expr.literal, Expr.unary, List.nil_append, List.append_nil,
      List.cons_append, List.mem_cons, List.not_mem_nil, or_false] at hn
    rcases hn with rfl | rfl | rfl | rfl | rfl | rfl | rfl | rfl
    all_goals constructor <;> simp [Operand.IsClear] <;> decide
  exact ⟨horderly, render_balanced .shared isStandard_shared _ horderly _ rfl⟩

end Table

end SqlFilter
