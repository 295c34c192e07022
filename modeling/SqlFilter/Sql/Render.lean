import SqlFilter.Log
import SqlFilter.Numeric.Notation
import SqlFilter.Sql.Dialect

set_option autoImplicit false

/-! # Rendering

`Table.walk` renders a tree by a table of rules and notes what happened on the way. The operands of
a node come before the node, the left one first, so the first failure of a depth-first walk is the
outcome. `Table.render` is the outcome alone.
-/

namespace SqlFilter

/-! ## What is logged -/

/-- Something worth a record. -/
inductive Event where
  /-- a node was rendered -/
  | rendered (op : Operator) (sql : String)
  /-- an operator without a rule was met -/
  | unmapped (op : Operator)
  /-- the table of a dialect was put together -/
  | built (dialect : Dialect) (size : Nat)
  deriving DecidableEq, Repr

namespace Event

/-- The part of the program that renders. -/
def target : String :=
  "lucene_sql::driver::base"

/-- The record of an event. -/
def record : Event → Record
  | .rendered op sql => ⟨.trace, target, "Rendered " ++ op.name ++ " node: " ++ sql⟩
  | .unmapped op => ⟨.debug, target, "No render function for operator " ++ op.name⟩
  | .built dialect size =>
    ⟨.debug, target, "Built " ++ dialect.name ++ " driver with " ++ toString size ++ " operators"⟩

end Event

/-- An outcome, and the events on the way to it. -/
structure Logged (α : Type) where
  events : List Event
  outcome : Except RenderError α

namespace Logged

/-- An outcome on the way to which nothing happened. -/
def quiet {α : Type} (outcome : Except RenderError α) : Logged α :=
  ⟨[], outcome⟩

/-- One step after another. A failure ends the walk. -/
def andThen {α β : Type} (step : Logged α) (next : α → Logged β) : Logged β :=
  match step.outcome with
  | .ok a =>
    let later := next a
    ⟨step.events ++ later.events, later.outcome⟩
  | .error e => ⟨step.events, .error e⟩

/-- The outcome of two steps is that of the second after the first. -/
theorem outcome_andThen {α β : Type} (step : Logged α) (next : α → Logged β) :
    (step.andThen next).outcome = step.outcome.bind fun a => (next a).outcome := by
  rcases step with ⟨events, _ | a⟩ <;> rfl

end Logged

/-! ## The text of leaves -/

/-- A constant as text; a string stands as it is. -/
def Scalar.text : Scalar → String
  | .bool value => if value then "true" else "false"
  | .int value => toString value.toInt
  | .uint value => toString value.toNat
  | .float value => value.plainText
  | .string value => value

/-- A constant in SQL. A string stands in single quotes; those inside it are left alone. -/
def Scalar.sql : Scalar → String
  | .string value => "'" ++ value ++ "'"
  | scalar => scalar.text

/-- A column in SQL. A name with a space in it stands in double quotes; those inside it are left
alone. -/
def Column.sql (column : Column) : String :=
  if column.name.toList.contains ' ' then "\"" ++ column.name ++ "\"" else column.name

/-! ## The walk -/

namespace Table

/-- The texts of the items of a list, with a comma and a space between any two. -/
def joinItems : List String → String
  | [] => ""
  | [item] => item
  | item :: rest => item ++ ", " ++ joinItems rest

/-- The last step at a node: its rule applied to the texts of its operands. -/
def close (table : Table) (op : Operator) (left right : String) : Logged String :=
  match table.rule? op with
  | none => ⟨[.unmapped op], .error (.unsupported op)⟩
  | some rule =>
    match rule.apply left right with
    | .ok sql => ⟨[.rendered op sql], .ok sql⟩
    | .error e => ⟨[], .error e⟩

mutual

/-- The walk over a tree. -/
def walk (table : Table) : Expr → Logged String
  | .node op left right =>
    (table.walkOperand left).andThen fun left =>
      (table.walkOperand right).andThen fun right =>
        table.close op left right

/-- The walk over one side of a node. What stands on a side is written the same under every
operator. -/
def walkOperand (table : Table) : Operand → Logged String
  | .absent => .quiet (.ok "")
  | .expr tree => table.walk tree
  | .list items => (table.walkAll items).andThen fun texts => .quiet (.ok (joinItems texts))
  | .range boundary => .quiet (.ok boundary.text)
  | .column column => .quiet (.ok column.sql)
  | .value scalar => .quiet (.ok scalar.sql)

/-- The walk over the items of a list, in order. -/
def walkAll (table : Table) : List Expr → Logged (List String)
  | [] => .quiet (.ok [])
  | item :: rest =>
    (table.walk item).andThen fun text =>
      (table.walkAll rest).andThen fun texts => .quiet (.ok (text :: texts))

end

/-- The SQL text of a tree. -/
def render (table : Table) (tree : Expr) : Except RenderError String :=
  (table.walk tree).outcome

/-- The text of one side of a node. -/
def renderOperand (table : Table) (operand : Operand) : Except RenderError String :=
  (table.walkOperand operand).outcome

/-- The operands of a node are rendered before its rule is looked up, the left one first. -/
theorem render_node (table : Table) (op : Operator) (left right : Operand) :
    table.render (.node op left right) =
      (table.renderOperand left).bind fun l =>
        (table.renderOperand right).bind fun r => (table.close op l r).outcome := by
  rw [render, walk, Logged.outcome_andThen]
  simp only [Logged.outcome_andThen, renderOperand]

/-- The SQL text of a tree that may be missing: nothing gives the empty text. -/
def renderOptional (table : Table) : Option Expr → Except RenderError String
  | none => .ok ""
  | some tree => table.render tree

end Table

/-- The table of a dialect, together with the event of its making. -/
def Dialect.built (dialect : Dialect) : Event × Table :=
  (.built dialect dialect.table.size, dialect.table)

end SqlFilter
