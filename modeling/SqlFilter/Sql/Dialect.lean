import SqlFilter.Sql.Table

set_option autoImplicit false

/-! # Dialects

A dialect is a set of rules put over the shared table. The base dialect adds none; the postgres
dialect says of fuzzy and boosted terms that it has no counterpart of them.
-/

namespace SqlFilter

/-- The kind of SQL that is written. -/
inductive Dialect where
  | base
  | postgres
  deriving DecidableEq, Repr

namespace Dialect

/-- The dialect used when none is asked for. -/
def default : Dialect :=
  .postgres

/-- The name of a dialect. -/
def name : Dialect → String
  | .base => "base"
  | .postgres => "postgres"

/-- A text with the ASCII letters in lower case. -/
def lowered (text : String) : String :=
  String.ofList (text.toList.map Char.toLower)

/-- The dialect of a name, in any case; a name that belongs to none is given back in lower case. -/
def ofName (name : String) : Except String Dialect :=
  match lowered name with
  | "base" => .ok .base
  | "postgres" | "postgresql" => .ok .postgres
  | other => .error other

/-- The words for a name that belongs to no dialect. -/
def unknownMessage (name : String) : String :=
  "unknown dialect: " ++ name

/-- The rules that a dialect puts over the shared table. -/
def overrides : Dialect → List (Operator × Rule)
  | .base => []
  | .postgres => [(.fuzzy, .untranslatable .fuzzy), (.boost, .untranslatable .boost)]

/-- The table of a dialect. -/
def table (dialect : Dialect) : Table :=
  Table.shared.insertAll dialect.overrides

theorem ofName_name (dialect : Dialect) : ofName dialect.name = .ok dialect := by
  cases dialect <;> rfl

end Dialect

end SqlFilter
