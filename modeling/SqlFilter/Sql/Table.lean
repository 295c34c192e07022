import SqlFilter.Sql.Rule

set_option autoImplicit false

/-! # Tables of rules

A table has a rule for some of the operators. It is seen through `Table.rule?` alone: inserting and
erasing a rule change the answer for one operator and for no other.
-/

namespace SqlFilter

/-- The rules by which trees are rendered, one for each operator that has one. -/
structure Table where
  rule? : Operator → Option Rule

namespace Table

/-- The table without rules. -/
def empty : Table :=
  ⟨fun _ => none⟩

/-- The table with a rule added, or put in place of the one before. -/
def insert (table : Table) (op : Operator) (rule : Rule) : Table :=
  ⟨fun op' => if op' = op then some rule else table.rule? op'⟩

/-- The table with several rules inserted, one after another. -/
def insertAll (table : Table) (rules : List (Operator × Rule)) : Table :=
  rules.foldl (fun table (op, rule) => table.insert op rule) table

/-- The table of the given rules; of two for one operator the later counts. -/
def ofList (rules : List (Operator × Rule)) : Table :=
  empty.insertAll rules

/-- The table without a rule for the operator. -/
def erase (table : Table) (op : Operator) : Table :=
  ⟨fun op' => if op' = op then none else table.rule? op'⟩

/-- Whether the operator has a rule. -/
def supports (table : Table) (op : Operator) : Bool :=
  (table.rule? op).isSome

/-- The number of operators with a rule. -/
def size (table : Table) : Nat :=
  Operator.all.countP table.supports

/-- The rules, in the fixed order of the operators. -/
def toList (table : Table) : List (Operator × Rule) :=
  Operator.all.filterMap fun op => (table.rule? op).map (op, ·)

@[simp] theorem rule?_empty (op : Operator) : empty.rule? op = none := rfl

@[simp] theorem rule?_insert (table : Table) (op op' : Operator) (rule : Rule) :
    (table.insert op rule).rule? op' = if op' = op then some rule else table.rule? op' := rfl

@[simp] theorem rule?_erase (table : Table) (op op' : Operator) :
    (table.erase op).rule? op' = if op' = op then none else table.rule? op' := rfl

@[simp] theorem insertAll_nil (table : Table) : table.insertAll [] = table := rfl

@[simp] theorem insertAll_cons (table : Table) (op : Operator) (rule : Rule)
    (rules : List (Operator × Rule)) :
    table.insertAll ((op, rule) :: rules) = (table.insert op rule).insertAll rules := rfl

/-! ## The shared table -/

/-- The rule that joins two operands by the operator's own spelling. -/
def joined (op : Operator) : Operator × Rule :=
  (op, .join op.spelling)

/-- The rules that every dialect starts from. Exclusion is plain negation; fuzzy and boosted terms
have no rule. -/
def shared : Table :=
  ofList
    [(.literal, .literal), joined .and, joined .or, (.not, .wrap Operator.not.spelling),
      joined .equals, (.range, .range), (.must, .pass), (.mustNot, .wrap Operator.not.spelling),
      (.wild, .pass), (.regexp, .pass), joined .like, joined .greater, joined .greaterEq,
      joined .less, joined .lessEq, (.inList, .member), (.list, .list)]

end Table

end SqlFilter
