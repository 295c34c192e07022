import SqlFilter.Proofs.Sql.Renderable

set_option autoImplicit false

/-! # The order of the leaves

The leaves of a tree are its columns, constants and range boundaries. In the SQL text of a tree
whose rules drop nothing but absent operands their texts stand one after another, from left to right
and without overlap (`InOrder`), and what lies between them are the words of the rules. The
induction is on the tree; two texts in order put behind one another are in order again
(`InOrder.append`), and a text with nothing in it stands for a word of SQL, so each rule is a few
steps of this kind.
-/

namespace SqlFilter

/-! ## Texts in order -/

/-- The texts stand in a whole one after another, without overlap. -/
def InOrder : List String → String → Prop
  | [], _ => True
  | text :: rest, whole => ∃ before after, whole = before ++ text ++ after ∧ InOrder rest after

namespace InOrder

theorem nil (whole : String) : InOrder [] whole :=
  True.intro

theorem singleton (text : String) : InOrder [text] text :=
  ⟨"", "", by simp, nil ""⟩

/-- A word in front. -/
theorem append_word {texts : List String} {whole : String} (word : String)
    (h : InOrder texts whole) : InOrder texts (word ++ whole) := by
  cases texts with
  | nil => exact nil _
  | cons text rest =>
      obtain ⟨before, after, rfl, hrest⟩ := h
      exact ⟨word ++ before, after, by simp only [String.append_assoc], hrest⟩

theorem append {texts texts' : List String} {whole whole' : String} (h : InOrder texts whole)
    (h' : InOrder texts' whole') : InOrder (texts ++ texts') (whole ++ whole') := by
  induction texts generalizing whole with
  | nil => exact h'.append_word whole
  | cons text rest ih =>
      obtain ⟨before, after, rfl, hrest⟩ := h
      exact ⟨before, after ++ whole', by simp only [String.append_assoc], ih hrest⟩

/-- A word behind. -/
theorem word_append {texts : List String} {whole : String} (h : InOrder texts whole)
    (word : String) : InOrder texts (whole ++ word) := by
  have hword := h.append (nil word)
  rwa [List.append_nil] at hword

/-- A word between. -/
theorem between {texts texts' : List String} {whole whole' : String} (h : InOrder texts whole)
    (word : String) (h' : InOrder texts' whole') :
    InOrder (texts ++ texts') (whole ++ word ++ whole') :=
  (h.word_append word).append h'

/-- One more item of a list. -/
theorem joinItems_cons {texts texts' : List String} {item : String} {items : List String}
    (h : InOrder texts item) (h' : InOrder texts' (Table.joinItems items)) :
    InOrder (texts ++ texts') (Table.joinItems (item :: items)) := by
  cases items with
  | nil =>
      have hitem := h.append h'
      rw [Table.joinItems, String.append_empty] at hitem
      exact hitem
  | cons second items => exact h.between ", " h'

end InOrder

/-! ## Leaves -/

/-- The bounds of a range as they are written in a condition: trimmed, an open end not at all. -/
def Boundary.boundTexts (b : Boundary) : List String :=
  [b.trimmed.min, b.trimmed.max].filter (· ≠ "*")

mutual

/-- The texts of the leaves of a tree, from left to right. -/
def Expr.leafTexts : Expr → List String
  | .node op left right =>
    left.leafTexts ++
      match op, right with
      | .range, .range boundary => boundary.boundTexts
      | _, _ => right.leafTexts

/-- The texts of the leaves of an operand. A boundary that is not the one of a range node is written
with its brackets. -/
def Operand.leafTexts : Operand → List String
  | .absent => []
  | .expr tree => tree.leafTexts
  | .list items => Expr.leafTextsAll items
  | .range boundary => [boundary.text]
  | .column column => [column.sql]
  | .value scalar => [scalar.sql]

/-- The texts of the leaves of several trees. -/
def Expr.leafTextsAll : List Expr → List String
  | [] => []
  | item :: rest => item.leafTexts ++ Expr.leafTextsAll rest

end

/-- The rule of the node drops nothing: where it passes the left operand through there is no right
one, a negation has one operand at most, and a range has its boundary. -/
def Expr.IsTidy (n : Expr) : Prop :=
  (n.op.IsPassing → n.right = .absent) ∧
  (n.op.IsNegation → n.left = .absent ∨ n.right = .absent) ∧
  (n.op = .range → ∃ b, n.right = .range b)

theorem Expr.leafTexts_node {op : Operator} (hop : op ≠ .range) (left right : Operand) :
    (Expr.node op left right).leafTexts = left.leafTexts ++ right.leafTexts := by
  rw [leafTexts]
  exact fun _ hrange _ => hop hrange

theorem Expr.leafTexts_range (left : Operand) (b : Boundary) :
    (Expr.node .range left (.range b)).leafTexts = left.leafTexts ++ b.boundTexts := by
  rw [leafTexts]

/-! ## The texts that rules make -/

namespace Boundary

/-- The condition of a range has the texts of its left operand, and then its bounds. -/
theorem inOrder_condition {texts : List String} {left : String} (h : InOrder texts left)
    (b : Boundary) :
    InOrder (texts ++ [b.min, b.max].filter (· ≠ "*")) (b.condition left) := by
  have hmin := InOrder.singleton b.min
  have hmax := InOrder.singleton b.max
  rw [condition_eq]
  split
  · next hopen => simpa [hopen.1, hopen.2] using h.word_append " IS NOT NULL"
  · next hsome =>
      split
      · next hlow =>
          have hhigh : b.max ≠ "*" := fun hhigh => hsome ⟨hlow, hhigh⟩
          simpa [hlow, hhigh] using h.between _ hmax
      · next hlow =>
          split
          · next hhigh => simpa [hlow, hhigh] using h.between _ hmin
          · next hhigh =>
              split
              · simpa [hlow, hhigh] using (h.between " BETWEEN " hmin).between " AND " hmax
              · -- the left text is written twice, and the first time counts
                have hagain := (h.between " > " hmin).between (" AND " ++ left ++ " < ") hmax
                simpa [hlow, hhigh, String.append_assoc] using hagain

end Boundary

namespace Table

variable {table : Table}

/-- The last step at a node keeps the texts of its operands in order. -/
theorem IsStandard.inOrder_close (htable : table.IsStandard) {op : Operator} {left right : Operand}
    (htidy : (Expr.node op left right).IsTidy) {rule : Rule} (hrule : table.rule? op = some rule)
    {l r sql : String} (hl : table.renderOperand left = .ok l)
    (hr : table.renderOperand right = .ok r) (happly : rule.apply l r = .ok sql)
    (hleft : InOrder left.leafTexts l) (hright : InOrder right.leafTexts r) :
    InOrder (Expr.node op left right).leafTexts sql := by
  obtain ⟨hpassing, hnegation, hrange⟩ := htidy
  rcases htable.apply_cases hrule happly with ⟨hop, rfl⟩ | ⟨hop, rfl⟩ | ⟨hop, rfl⟩ |
    ⟨rfl, boundary, hread, rfl⟩ | ⟨rfl, rfl⟩
  · obtain rfl : right = .absent := hpassing hop
    rw [Expr.leafTexts_node hop.ne_range, Operand.leafTexts, List.append_nil]
    exact hleft
  · rw [Expr.leafTexts_node hop.ne_range]
    refine (InOrder.append_word _ ?_).word_append ")"
    -- the operand that is written is the only one that can have leaves
    rcases hnegation hop with habsent | habsent
    · obtain rfl : left = .absent := habsent
      rw [renderOperand_absent] at hl
      obtain rfl := Except.ok.inj hl
      rw [Operand.leafTexts, List.nil_append]
      split
      · next hempty => rwa [String.isEmpty_iff.mp hempty] at hright
      · exact hright
    · obtain rfl : right = .absent := habsent
      rw [renderOperand_absent] at hr
      obtain rfl := Except.ok.inj hr
      rw [Operand.leafTexts, List.append_nil]
      exact hleft
  · rw [Expr.leafTexts_node hop.ne_range]
    have hjoin := hleft.between (" " ++ op.spelling ++ " ") hright
    simpa only [String.append_assoc] using hjoin
  · obtain ⟨b, hb⟩ := hrange rfl
    obtain rfl : right = .range b := hb
    rw [renderOperand_range] at hr
    obtain rfl := Except.ok.inj hr
    obtain rfl := Boundary.eq_trimmed_of_ofText?_text hread
    rw [Expr.leafTexts_range]
    exact b.trimmed.inOrder_condition hleft
  · rw [Expr.leafTexts_node (by decide)]
    exact (hleft.between " IN (" hright).word_append ")"

-- By induction on the tree: the texts of the operands are in order before those of the node.

mutual

theorem inOrder_render (htable : table.IsStandard) : ∀ {tree : Expr},
    (∀ n ∈ tree.nodes, n.IsTidy) → ∀ {sql : String}, table.render tree = .ok sql →
      InOrder tree.leafTexts sql
  | .node op left right, htidy, sql, h => by
      rw [Expr.nodes] at htidy
      obtain ⟨rule, l, r, hrule, hl, hr, happly⟩ := table.render_node_eq_ok_iff.mp h
      have hleft : InOrder left.leafTexts l :=
        inOrder_renderOperand htable (fun n hn => htidy n (List.mem_append_left _ hn)) hl
      have hright : InOrder right.leafTexts r :=
        inOrder_renderOperand htable
          (fun n hn => htidy n (List.mem_append_right _ (List.mem_append_left _ hn))) hr
      have hroot : (Expr.node op left right).IsTidy := htidy _ (by simp)
      exact htable.inOrder_close hroot hrule hl hr happly hleft hright

theorem inOrder_renderOperand (htable : table.IsStandard) : ∀ {operand : Operand},
    (∀ n ∈ operand.nodes, n.IsTidy) → ∀ {text : String}, table.renderOperand operand = .ok text →
      InOrder operand.leafTexts text
  | .expr tree, htidy, text, h => by
      rw [renderOperand_expr] at h
      exact inOrder_render htable htidy h
  | .list items, htidy, text, h => by
      rw [renderOperand_list] at h
      cases htexts : table.renderAll items with
      | error e => rw [htexts] at h; cases h
      | ok texts =>
          rw [htexts] at h
          obtain rfl := Except.ok.inj h
          exact inOrder_renderAll htable htidy htexts
  | .absent, _, text, _ => InOrder.nil text
  | .range boundary, _, text, h => by
      rw [renderOperand_range] at h
      obtain rfl := Except.ok.inj h
      exact InOrder.singleton boundary.text
  | .column column, _, text, h => by
      rw [renderOperand_column] at h
      obtain rfl := Except.ok.inj h
      exact InOrder.singleton column.sql
  | .value scalar, _, text, h => by
      rw [renderOperand_value] at h
      obtain rfl := Except.ok.inj h
      exact InOrder.singleton scalar.sql

theorem inOrder_renderAll (htable : table.IsStandard) : ∀ {items : List Expr},
    (∀ n ∈ Expr.nodesAll items, n.IsTidy) → ∀ {texts : List String},
      table.renderAll items = .ok texts → InOrder (Expr.leafTextsAll items) (joinItems texts)
  | [], _, texts, _ => InOrder.nil (joinItems texts)
  | item :: rest, htidy, texts, h => by
      rw [Expr.nodesAll] at htidy
      rw [renderAll_cons] at h
      cases hitem : table.render item with
      | error e => rw [hitem] at h; cases h
      | ok text =>
          cases hrest : table.renderAll rest with
          | error e => rw [hitem, hrest] at h; cases h
          | ok texts' =>
              rw [hitem, hrest] at h
              obtain rfl := Except.ok.inj h
              exact (inOrder_render htable (fun n hn => htidy n (List.mem_append_left _ hn))
                hitem).joinItems_cons (inOrder_renderAll htable
                  (fun n hn => htidy n (List.mem_append_right _ hn)) hrest)

end

/-- **No operand is lost or reordered.** When a standard table renders a tree whose rules drop
nothing, the texts of all leaves stand in the SQL text from left to right and without overlap. -/
theorem render_keeps_leaves (table : Table) (htable : table.IsStandard) (tree : Expr)
    (htidy : ∀ n ∈ tree.nodes, n.IsTidy) (sql : String) (h : table.render tree = .ok sql) :
    InOrder tree.leafTexts sql :=
  inOrder_render htable htidy h

/-- A range that writes its left text twice stands beside a list of negations, one of them with its
operand on the right. -/
theorem render_keeps_leaves_negations :
    (∀ n ∈ (Expr.node .and (.expr (.range (.column ⟨"user name"⟩) (.strict " 1" "9")))
      (.list [.mustNot (.column "a"), .node .not .absent (.value (.string "b"))])).nodes,
        n.IsTidy) ∧
    InOrder ["\"user name\"", "1", "9", "a", "'b'"]
      "\"user name\" > 1 AND \"user name\" < 9 AND NOT(a), NOT('b')" := by
  have htidy : ∀ n ∈ (Expr.node .and (.expr (.range (.column ⟨"user name"⟩) (.strict " 1" "9")))
      (.list [.mustNot (.column "a"), .node .not .absent (.value (.string "b"))])).nodes,
        n.IsTidy := by
    simp [Expr.nodes, Operand.nodes, Expr.nodesAll, Expr.range, Expr.mustNot, Expr.column,
      Expr.literal, Expr.unary, Expr.IsTidy, Operator.IsPassing, Operator.IsNegation]
  exact ⟨htidy, render_keeps_leaves .shared isStandard_shared _ htidy _ rfl⟩

end Table

end SqlFilter
