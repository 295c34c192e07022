import SqlFilter.Query.Build
import SqlFilter.Proofs.Sql.Standard

set_option autoImplicit false

/-! # The meaning of bare joins

Conjunctions and disjunctions are joined without parentheses, so SQL groups the flat text by its own
precedence. A `Formula` is a tree seen as a boolean formula: its connectives, and at the leaves
trees of any other kind, each occurrence with a name. `Token.value?` reads a sequence of tokens with
the precedence of SQL, one token at a time: an `AND` extends the conjunction that is being read, an
`OR` ends it, and `NOT(` begins a condition of its own that counts as one operand.

Reading the tokens of a formula gives its truth as long as no disjunction stands right below a
conjunction. The induction is on the formula, for any conjunction that has been begun: a formula
that exposes no disjunction extends it by one factor, and a formula that does is only read where
nothing has been begun.
-/

namespace SqlFilter

/-! ## Formulas -/

/-- The operators of boolean formulas. -/
def Operator.isConnective : Operator → Bool
  | .and | .or | .not | .mustNot | .must => true
  | _ => false

/-- A tree as a boolean formula, with a name for each occurrence of an atom. -/
inductive Formula (α : Type) where
  /-- a tree of any other kind -/
  | atom (name : α) (tree : Expr) (other : tree.op.isConnective = false)
  | and (left right : Formula α)
  | or (left right : Formula α)
  | not (operand : Formula α)
  | mustNot (operand : Formula α)
  | must (operand : Formula α)

namespace Formula

variable {α : Type}

/-- The tree of a formula. -/
def tree : Formula α → Expr
  | .atom _ tree _ => tree
  | .and left right => .and left.tree right.tree
  | .or left right => .or left.tree right.tree
  | .not operand => .not operand.tree
  | .mustNot operand => .mustNot operand.tree
  | .must operand => .must operand.tree

/-- The occurrences of atoms, from left to right. -/
def atoms : Formula α → List (α × Expr)
  | .atom name tree _ => [(name, tree)]
  | .and left right | .or left right => left.atoms ++ right.atoms
  | .not operand | .mustNot operand | .must operand => operand.atoms

/-- The truth of a formula. A requirement is its operand, an exclusion its negation. -/
def truth (values : α → Bool) : Formula α → Bool
  | .atom name _ _ => values name
  | .and left right => left.truth values && right.truth values
  | .or left right => left.truth values || right.truth values
  | .not operand | .mustNot operand => !operand.truth values
  | .must operand => operand.truth values

/-- Whether the formula is a disjunction, as it is or below requirements. -/
def exposesOr : Formula α → Bool
  | .or _ _ => true
  | .must operand => operand.exposesOr
  | .atom .. | .and .. | .not _ | .mustNot _ => false

/-- No disjunction is an operand of a conjunction, as it is or below requirements. -/
def OrOutsideAnd : Formula α → Prop
  | .atom .. => True
  | .and left right =>
    left.exposesOr = false ∧ right.exposesOr = false ∧ left.OrOutsideAnd ∧ right.OrOutsideAnd
  | .or left right => left.OrOutsideAnd ∧ right.OrOutsideAnd
  | .not operand | .mustNot operand | .must operand => operand.OrOutsideAnd

end Formula

/-! ## Tokens -/

/-- A token of a condition. -/
inductive Token (α : Type) where
  /-- an atom, with its SQL text -/
  | atom (name : α) (sql : String)
  | and
  | or
  /-- a negation with its opening parenthesis -/
  | notOpen
  | close

namespace Token

variable {α : Type}

/-- The text of a token. -/
def text : Token α → String
  | .atom _ sql => sql
  | .and => " AND "
  | .or => " OR "
  | .notOpen => "NOT("
  | .close => ")"

/-- The text of several tokens, one after another. -/
def concat : List (Token α) → String
  | [] => ""
  | token :: rest => token.text ++ concat rest

/-- The atom that a token stands for. -/
def atom? : Token α → Option (α × String)
  | .atom name sql => some (name, sql)
  | _ => none

theorem concat_append (first second : List (Token α)) :
    concat (first ++ second) = concat first ++ concat second := by
  induction first with
  | nil => rw [List.nil_append, concat, String.empty_append]
  | cons token rest ih => rw [List.cons_append, concat, concat, ih, String.append_assoc]

end Token

/-! ## Reading with precedence -/

/-- A condition as far as it has been read: the value of the conjunctions that an `OR` has ended,
and the value of the one that is being read. -/
structure Frame where
  ended : Bool
  current : Bool

namespace Frame

/-- Nothing has been read. -/
def start : Frame :=
  ⟨false, true⟩

/-- One more operand of the conjunction. -/
def factor (frame : Frame) (value : Bool) : Frame :=
  { frame with current := frame.current && value }

/-- The conjunction has ended. -/
def next (frame : Frame) : Frame :=
  ⟨frame.ended || frame.current, true⟩

/-- The value of a condition that ends here. -/
def value (frame : Frame) : Bool :=
  frame.ended || frame.current

end Frame

/-- A place between tokens: before an operand or behind one, with the conditions around the one that
is being read, the innermost first. -/
inductive Cursor where
  | before (frame : Frame) (outer : List Frame)
  | behind (frame : Frame) (outer : List Frame)

namespace Token

variable {α : Type}

/-- One token. -/
def step (values : α → Bool) : Cursor → Token α → Option Cursor
  | .before frame outer, .atom name _ => some (.behind (frame.factor (values name)) outer)
  | .before frame outer, .notOpen => some (.before .start (frame :: outer))
  | .behind frame outer, .and => some (.before frame outer)
  | .behind frame outer, .or => some (.before frame.next outer)
  | .behind frame (around :: outer), .close => some (.behind (around.factor !frame.value) outer)
  | _, _ => none

/-- The value of a sequence of tokens, if it is a condition. -/
def value? (values : α → Bool) (tokens : List (Token α)) : Option Bool :=
  match tokens.foldlM (step values) (.before .start []) with
  | some (.behind frame []) => some frame.value
  | _ => none

end Token

namespace Formula

variable {α : Type}

/-- The tokens of a formula, for given texts of its atoms. -/
def tokens (sql : Expr → String) : Formula α → List (Token α)
  | .atom name tree _ => [.atom name (sql tree)]
  | .and left right => left.tokens sql ++ .and :: right.tokens sql
  | .or left right => left.tokens sql ++ .or :: right.tokens sql
  | .not operand | .mustNot operand => .notOpen :: (operand.tokens sql ++ [.close])
  | .must operand => operand.tokens sql

/-- The atoms among the tokens are those of the formula, in order. -/
theorem filterMap_atom?_tokens (sql : Expr → String) (f : Formula α) :
    (f.tokens sql).filterMap Token.atom? = f.atoms.map fun (name, tree) => (name, sql tree) := by
  induction f with
  | atom name tree other => rfl
  | and left right ihl ihr =>
      rw [tokens, List.filterMap_append, List.filterMap_cons_none rfl, ihl, ihr, atoms,
        List.map_append]
  | or left right ihl ihr =>
      rw [tokens, List.filterMap_append, List.filterMap_cons_none rfl, ihl, ihr, atoms,
        List.map_append]
  | not operand ih =>
      rw [tokens, List.filterMap_cons_none rfl, List.filterMap_append, ih, atoms]
      exact List.append_nil _
  | mustNot operand ih =>
      rw [tokens, List.filterMap_cons_none rfl, List.filterMap_append, ih, atoms]
      exact List.append_nil _
  | must operand ih => rw [tokens, ih, atoms]

/-! ## The tokens spell the SQL text -/

/-- The text of a join is that of its left operand, its word and its right operand. -/
theorem render_join {table : Table} {op : Operator} {keyword text : String} {left right : Expr}
    (hrule : table.rule? op = some (.join keyword))
    (h : table.render (.node op (.expr left) (.expr right)) = .ok text) :
    ∃ l r, table.render left = .ok l ∧ table.render right = .ok r ∧
      text = l ++ (" " ++ keyword ++ " " ++ r) := by
  obtain ⟨rule, l, r, hrule', hl, hr, happly⟩ := (table.render_node_eq_ok_iff).mp h
  rw [Table.renderOperand_expr] at hl hr
  rw [hrule] at hrule'
  obtain rfl := Option.some.inj hrule'
  obtain rfl := Except.ok.inj happly
  exact ⟨l, r, hl, hr, by simp only [String.append_assoc]⟩

/-- A node with nothing on the right has the text that its rule makes of the left operand. -/
theorem render_unary {table : Table} {op : Operator} {rule : Rule} {text : String} {operand : Expr}
    (hrule : table.rule? op = some rule)
    (h : table.render (.unary op (.expr operand)) = .ok text) :
    ∃ l, table.render operand = .ok l ∧ rule.apply l "" = .ok text := by
  obtain ⟨rule', l, r, hrule', hl, hr, happly⟩ := (table.render_node_eq_ok_iff).mp h
  rw [Table.renderOperand_expr] at hl
  rw [Table.renderOperand_absent] at hr
  rw [hrule] at hrule'
  obtain rfl := Option.some.inj hrule'
  obtain rfl := Except.ok.inj hr
  exact ⟨l, hl, happly⟩

/-- The tokens of a negation spell its text. -/
theorem concat_negation (inner : List (Token α)) :
    Token.concat (.notOpen :: (inner ++ [.close])) = "NOT" ++ "(" ++ Token.concat inner ++ ")" := by
  rw [Token.concat, Token.concat_append, ← String.append_assoc]
  rfl

/-- The SQL text of a formula is that of its tokens, and all of its atoms have texts. -/
theorem concat_tokens {table : Table} (htable : table.IsStandard) {sql : Expr → String}
    (hsql : ∀ tree text, table.render tree = .ok text → sql tree = text) (f : Formula α) :
    ∀ text, table.render f.tree = .ok text →
      text = Token.concat (f.tokens sql) ∧
        ∀ atom ∈ f.atoms, table.render atom.2 = .ok (sql atom.2) := by
  induction f with
  | atom name tree other =>
      intro text h
      have heq := hsql tree text h
      refine ⟨by rw [tokens, Token.concat, Token.concat, Token.text, heq, String.append_empty], ?_⟩
      intro atom hatom
      obtain rfl := List.mem_singleton.mp hatom
      rw [heq]
      exact h
  | and left right ihl ihr =>
      intro text h
      obtain ⟨l, r, hl, hr, rfl⟩ := render_join (htable.rule?_eq (by decide) (by decide)) h
      obtain ⟨rfl, hatomsl⟩ := ihl l hl
      obtain ⟨rfl, hatomsr⟩ := ihr r hr
      rw [tokens, Token.concat_append, Token.concat, atoms, List.forall_mem_append]
      exact ⟨rfl, hatomsl, hatomsr⟩
  | or left right ihl ihr =>
      intro text h
      obtain ⟨l, r, hl, hr, rfl⟩ := render_join (htable.rule?_eq (by decide) (by decide)) h
      obtain ⟨rfl, hatomsl⟩ := ihl l hl
      obtain ⟨rfl, hatomsr⟩ := ihr r hr
      rw [tokens, Token.concat_append, Token.concat, atoms, List.forall_mem_append]
      exact ⟨rfl, hatomsl, hatomsr⟩
  | not operand ih =>
      intro text h
      obtain ⟨l, hl, happly⟩ := render_unary (htable.rule?_eq (by decide) (by decide)) h
      obtain ⟨rfl, hatoms⟩ := ih l hl
      obtain rfl := Except.ok.inj happly
      exact ⟨(concat_negation _).symm, hatoms⟩
  | mustNot operand ih =>
      intro text h
      obtain ⟨l, hl, happly⟩ := render_unary (htable.rule?_eq (by decide) (by decide)) h
      obtain ⟨rfl, hatoms⟩ := ih l hl
      obtain rfl := Except.ok.inj happly
      exact ⟨(concat_negation _).symm, hatoms⟩
  | must operand ih =>
      intro text h
      obtain ⟨l, hl, happly⟩ := render_unary (htable.rule?_eq (by decide) (by decide)) h
      obtain rfl := Except.ok.inj happly
      exact ih l hl

/-! ## Reading the tokens gives the truth -/

/-- Reading a formula behind an unfinished conjunction. -/
def Extends (values : α → Bool) (sql : Expr → String) (f : Formula α) : Prop :=
  ∀ frame outer, (f.tokens sql).foldlM (Token.step values) (.before frame outer) =
    some (.behind (frame.factor (f.truth values)) outer)

/-- Reading a formula where no conjunction has been begun. -/
def Adds (values : α → Bool) (sql : Expr → String) (f : Formula α) : Prop :=
  ∀ ended outer, ∃ frame : Frame,
    (f.tokens sql).foldlM (Token.step values) (.before ⟨ended, true⟩ outer) =
      some (.behind frame outer) ∧
    frame.value = (ended || f.truth values)

theorem Extends.adds {values : α → Bool} {sql : Expr → String} {f : Formula α}
    (h : f.Extends values sql) : f.Adds values sql :=
  fun ended outer => ⟨_, h ⟨ended, true⟩ outer, by simp [Frame.factor, Frame.value]⟩

/-- A negation reads as one operand, whatever it negates. -/
theorem extends_negation {values : α → Bool} {sql : Expr → String} {operand : Formula α}
    (h : operand.Adds values sql) (frame : Frame) (outer : List Frame) :
    (Token.notOpen :: (operand.tokens sql ++ [Token.close])).foldlM (Token.step values)
      (.before frame outer) = some (.behind (frame.factor !operand.truth values) outer) := by
  obtain ⟨inner, hinner, hvalue⟩ := h false (frame :: outer)
  rw [List.foldlM_cons]
  show (operand.tokens sql ++ [Token.close]).foldlM (Token.step values)
    (.before .start (frame :: outer)) = _
  rw [List.foldlM_append, Frame.start, hinner]
  show some (Cursor.behind (frame.factor !inner.value) outer) = _
  rw [hvalue, Bool.false_or]

/-- A formula without a disjunction below a conjunction can be read where nothing has been begun,
and anywhere if it exposes no disjunction itself. -/
theorem reads {values : α → Bool} {sql : Expr → String} (f : Formula α) (h : f.OrOutsideAnd) :
    (f.exposesOr = false → f.Extends values sql) ∧ f.Adds values sql := by
  induction f with
  | atom name tree other =>
      have key : (atom name tree other).Extends values sql := fun frame outer => rfl
      exact ⟨fun _ => key, key.adds⟩
  | and left right ihl ihr =>
      obtain ⟨hl, hr, houtl, houtr⟩ := h
      have key : (left.and right).Extends values sql := by
        intro frame outer
        rw [tokens, List.foldlM_append, (ihl houtl).1 hl frame outer]
        show (right.tokens sql).foldlM (Token.step values)
          (.before (frame.factor (left.truth values)) outer) = _
        rw [(ihr houtr).1 hr, truth, Frame.factor, Frame.factor, Frame.factor, Bool.and_assoc]
      exact ⟨fun _ => key, key.adds⟩
  | or left right ihl ihr =>
      refine ⟨fun hexposed => Bool.noConfusion hexposed, ?_⟩
      intro ended outer
      -- the `OR` ends the conjunction of the left operand, so the right one begins afresh
      obtain ⟨first, hfirst, hvalue⟩ := (ihl h.1).2 ended outer
      obtain ⟨second, hsecond, hvalue'⟩ := (ihr h.2).2 first.value outer
      refine ⟨second, ?_, by rw [hvalue', hvalue, truth, Bool.or_assoc]⟩
      rw [tokens, List.foldlM_append, hfirst]
      exact hsecond
  | not operand ih =>
      have key : (not operand).Extends values sql := extends_negation (ih h).2
      exact ⟨fun _ => key, key.adds⟩
  | mustNot operand ih =>
      have key : (mustNot operand).Extends values sql := extends_negation (ih h).2
      exact ⟨fun _ => key, key.adds⟩
  | must operand ih => exact ih h

/-- The tokens of a formula have its truth as their value. -/
theorem value?_tokens (values : α → Bool) (sql : Expr → String) {f : Formula α}
    (h : f.OrOutsideAnd) : Token.value? values (f.tokens sql) = some (f.truth values) := by
  obtain ⟨frame, hread, hvalue⟩ := (f.reads h).2 false []
  rw [Token.value?, Frame.start, hread]
  show some frame.value = _
  rw [hvalue, Bool.false_or]

/-- The SQL text of a tree, empty where it has none. -/
def sqlOf (table : Table) (tree : Expr) : String :=
  match table.render tree with
  | .ok text => text
  | .error _ => ""

theorem sqlOf_eq {table : Table} {tree : Expr} {text : String} (h : table.render tree = .ok text) :
    sqlOf table tree = text := by
  rw [sqlOf, h]

/-- **Boolean meaning survives the bare joins.** When the tree of a formula without a disjunction
below a conjunction is rendered by a standard table, its SQL text is spelled by tokens whose atoms
are those of the formula, in order and with their own texts, and under any values of the atoms the
tokens, read with the precedence of SQL, have the truth of the formula as their value. -/
theorem render_tree_reads {α : Type} (table : Table) (htable : table.IsStandard) (f : Formula α)
    (hf : f.OrOutsideAnd) (text : String) (h : table.render f.tree = .ok text) :
    ∃ tokens : List (Token α), text = Token.concat tokens ∧
      List.Forall₂ (fun atom leaf => atom.1 = leaf.1 ∧ table.render leaf.2 = .ok atom.2)
        (tokens.filterMap Token.atom?) f.atoms ∧
      ∀ values, Token.value? values tokens = some (f.truth values) := by
  obtain ⟨htext, hatoms⟩ := concat_tokens htable (fun _ _ => sqlOf_eq) f text h
  refine ⟨f.tokens (sqlOf table), htext, ?_, fun values => value?_tokens values _ hf⟩
  rw [filterMap_atom?_tokens, List.forall₂_map_left_iff, List.forall₂_same]
  exact fun leaf hleaf => ⟨rfl, hatoms leaf hleaf⟩

/-- A disjunction may stand below a negation that stands below a conjunction. -/
theorem render_tree_reads_negated_or :
    (Formula.or (.and (.atom 0 (.column "a") rfl)
      (.mustNot (.must (.or (.atom 1 (.column "b") rfl) (.atom 2 (.column "a") rfl)))))
      (.atom 3 (.column "c") rfl)).OrOutsideAnd ∧
    ∃ tokens : List (Token Nat), "a AND NOT(b OR a) OR c" = Token.concat tokens ∧
      ∀ values, Token.value? values tokens =
        some ((values 0 && !(values 1 || values 2)) || values 3) := by
  have hf : (Formula.or (.and (.atom 0 (.column "a") rfl)
      (.mustNot (.must (.or (.atom 1 (.column "b") rfl) (.atom 2 (.column "a") rfl)))))
      (.atom 3 (.column "c") rfl)).OrOutsideAnd := by simp [OrOutsideAnd, exposesOr]
  obtain ⟨tokens, htext, -, hvalue⟩ := render_tree_reads Dialect.postgres.table
    (Table.isStandard_dialect .postgres) _ hf "a AND NOT(b OR a) OR c" rfl
  exact ⟨hf, tokens, htext, hvalue⟩

end Formula

end SqlFilter
