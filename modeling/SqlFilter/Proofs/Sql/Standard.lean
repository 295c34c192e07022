import SqlFilter.Proofs.Walk.FirstFailure

set_option autoImplicit false

/-! # The standard tables

Three tables come with the library: the shared one and those of the two dialects. They differ only
in what they say of fuzzy and boosted terms, so what is proved from their common rules holds of all
three. By its standard rule an operator is of one of a few kinds (`Operator.kinds`), and
`Table.IsStandard.apply_cases` says what the rule of each kind makes of two texts.
-/

namespace SqlFilter

/-! ## Kinds of operators -/

namespace Operator

/-- The operators that pass their left operand through. -/
def IsPassing (op : Operator) : Prop :=
  op = .literal ∨ op = .must ∨ op = .wild ∨ op = .regexp ∨ op = .list

/-- The operators written as a negation. -/
def IsNegation (op : Operator) : Prop :=
  op = .not ∨ op = .mustNot

/-- The operators written between their operands. -/
def IsInfix (op : Operator) : Prop :=
  op = .and ∨ op = .or ∨ op = .equals ∨ op = .like ∨ op = .greater ∨ op = .greaterEq ∨ op = .less ∨
    op = .lessEq

instance (op : Operator) : Decidable op.IsPassing :=
  inferInstanceAs (Decidable (_ ∨ _))

instance (op : Operator) : Decidable op.IsNegation :=
  inferInstanceAs (Decidable (_ ∨ _))

instance (op : Operator) : Decidable op.IsInfix :=
  inferInstanceAs (Decidable (_ ∨ _))

/-- Every operator is of one kind. -/
theorem kinds (op : Operator) :
    op.IsPassing ∨ op.IsNegation ∨ op.IsInfix ∨ op = .range ∨ op = .inList ∨ op = .fuzzy ∨
      op = .boost := by
  cases op <;> decide

theorem IsPassing.ne_range {op : Operator} (h : op.IsPassing) : op ≠ .range := by
  rintro rfl
  exact absurd h (by decide)

theorem IsNegation.ne_range {op : Operator} (h : op.IsNegation) : op ≠ .range := by
  rintro rfl
  exact absurd h (by decide)

theorem IsInfix.ne_range {op : Operator} (h : op.IsInfix) : op ≠ .range := by
  rintro rfl
  exact absurd h (by decide)

end Operator

namespace Table

/-- The table is the shared one or that of a dialect. -/
def IsStandard (table : Table) : Prop :=
  table = shared ∨ ∃ dialect : Dialect, table = dialect.table

theorem isStandard_shared : IsStandard shared :=
  .inl rfl

theorem isStandard_dialect (dialect : Dialect) : IsStandard dialect.table :=
  .inr ⟨dialect, rfl⟩

/-- Outside fuzzy and boosted terms the standard tables have the rules of the shared one. -/
theorem IsStandard.rule?_eq {table : Table} (h : table.IsStandard) {op : Operator}
    (hfuzzy : op ≠ .fuzzy) (hboost : op ≠ .boost) : table.rule? op = shared.rule? op := by
  rcases h with rfl | ⟨dialect, rfl⟩
  · rfl
  · cases dialect with
    | base => rfl
    | postgres =>
        rw [Dialect.table, Dialect.overrides, insertAll_cons, insertAll_cons, insertAll_nil,
          rule?_insert, if_neg hboost, rule?_insert, if_neg hfuzzy]

/-! ## The rule of each kind -/

namespace IsStandard

variable {table : Table} (h : table.IsStandard)

include h

theorem rule?_of_isPassing {op : Operator} (hop : op.IsPassing) :
    ∃ rule, table.rule? op = some rule ∧ ∀ left right, rule.apply left right = .ok left := by
  rcases hop with rfl | rfl | rfl | rfl | rfl
  all_goals
    rw [h.rule?_eq (by decide) (by decide)]
    exact ⟨_, rfl, fun _ _ => rfl⟩

theorem rule?_of_isNegation {op : Operator} (hop : op.IsNegation) :
    table.rule? op = some (.wrap "NOT") := by
  rcases hop with rfl | rfl
  all_goals exact h.rule?_eq (by decide) (by decide)

theorem rule?_of_isInfix {op : Operator} (hop : op.IsInfix) :
    table.rule? op = some (.join op.spelling) := by
  rcases hop with rfl | rfl | rfl | rfl | rfl | rfl | rfl | rfl
  all_goals exact h.rule?_eq (by decide) (by decide)

theorem rule?_range : table.rule? .range = some .range :=
  h.rule?_eq (by decide) (by decide)

theorem rule?_inList : table.rule? .inList = some .member :=
  h.rule?_eq (by decide) (by decide)

/-- Where fuzzy and boosted terms have a rule, it always fails. -/
theorem apply_ne_ok_of_foreign {op : Operator} (hop : op = .fuzzy ∨ op = .boost) {rule : Rule}
    (hrule : table.rule? op = some rule) (left right sql : String) :
    rule.apply left right ≠ .ok sql := by
  rcases h with rfl | ⟨dialect, rfl⟩
  · rcases hop with rfl | rfl <;> cases hrule
  · cases dialect with
    | base => rcases hop with rfl | rfl <;> cases hrule
    | postgres =>
        rcases hop with rfl | rfl
        all_goals
          obtain rfl := Option.some.inj hrule
          exact fun heq => nomatch heq

/-- What a rule of a standard table makes of two texts, by the kind of the operator. -/
theorem apply_cases {op : Operator} {rule : Rule} (hrule : table.rule? op = some rule)
    {left right sql : String} (happly : rule.apply left right = .ok sql) :
    (op.IsPassing ∧ sql = left) ∨
    (op.IsNegation ∧ sql = "NOT" ++ "(" ++ (if right.isEmpty then left else right) ++ ")") ∨
    (op.IsInfix ∧ sql = left ++ " " ++ op.spelling ++ " " ++ right) ∨
    (op = .range ∧ ∃ boundary, Boundary.ofText? right = some boundary ∧
      sql = boundary.condition left) ∨
    (op = .inList ∧ sql = left ++ " IN (" ++ right ++ ")") := by
  rcases op.kinds with hop | hop | hop | rfl | rfl | hforeign
  · obtain ⟨rule', hrule', happly'⟩ := h.rule?_of_isPassing hop
    obtain rfl := Option.some.inj (hrule.symm.trans hrule')
    exact .inl ⟨hop, Except.ok.inj (happly.symm.trans (happly' left right))⟩
  · obtain rfl := Option.some.inj (hrule.symm.trans (h.rule?_of_isNegation hop))
    exact .inr (.inl ⟨hop, (Except.ok.inj happly).symm⟩)
  · obtain rfl := Option.some.inj (hrule.symm.trans (h.rule?_of_isInfix hop))
    exact .inr (.inr (.inl ⟨hop, (Except.ok.inj happly).symm⟩))
  · obtain rfl := Option.some.inj (hrule.symm.trans h.rule?_range)
    rw [Rule.apply] at happly
    split at happly
    · next boundary hread =>
        exact .inr (.inr (.inr (.inl ⟨rfl, boundary, hread, (Except.ok.inj happly).symm⟩)))
    · cases happly
  · obtain rfl := Option.some.inj (hrule.symm.trans h.rule?_inList)
    exact .inr (.inr (.inr (.inr ⟨rfl, (Except.ok.inj happly).symm⟩)))
  · exact absurd happly (h.apply_ne_ok_of_foreign hforeign hrule left right sql)

end IsStandard

end Table

end SqlFilter
