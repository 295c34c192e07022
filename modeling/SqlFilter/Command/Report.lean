import SqlFilter.Command.Arguments
import SqlFilter.Command.Folder
import SqlFilter.Json.Error
import SqlFilter.Log
import SqlFilter.Sql.Rule
import SqlFilter.Text.Terminal

set_option autoImplicit false

/-! # What the command says

The command writes log records and reports of failures. A report names the step that failed and
below it the causes, from the outermost to the innermost; several causes are numbered. Lines of a
text after its first are indented, so that it stays together.
-/

namespace SqlFilter

open Text (painted plain)

/-- Why there is no tree to be had from a file. -/
inductive LoadError where
  | file (error : FileError)
  | json (error : Json.Error)
  deriving DecidableEq

namespace LoadError

/-- The words for what went wrong at the bottom. -/
def cause : LoadError → String
  | .file e => e.message
  | .json e => e.message

/-- The words for an error. -/
def message : LoadError → String
  | .file e => "IO error: " ++ e.message
  | .json e => "Invalid expression JSON: " ++ e.message

end LoadError

/-- Why a run has no result. -/
inductive Failure where
  /-- a file cannot be read as a tree -/
  | file (path : String) (error : LoadError)
  /-- standard input cannot be read -/
  | input (error : FileError)
  /-- standard input does not hold a tree -/
  | document (error : Json.Error)
  /-- the tree cannot be rendered -/
  | render (dialect : Dialect) (error : RenderError)

namespace Failure

/-- The step that failed. -/
def step : Failure → String
  | .file path _ => "Failed to read expression from " ++ path
  | .input _ => "Failed to read expression from stdin"
  | .document _ => "Failed to parse expression from stdin"
  | .render dialect _ => "Failed to render expression as " ++ dialect.name ++ " SQL"

/-- The causes, the outermost first. -/
def causes : Failure → List String
  | .file _ e => [e.message, e.cause]
  | .input e => [e.message]
  | .document e => [(LoadError.json e).message, (LoadError.json e).cause]
  | .render _ e => [e.message]

end Failure

/-- A text with spaces in front of every line but the first. -/
def indentRest (width : Nat) (text : String) : String :=
  String.ofList
    (text.toList.flatMap fun c => if c = '\n' then c :: List.replicate width ' ' else [c])

/-- The lines for the causes of a failure. -/
def causeLines : List String → List String
  | [cause] => ["    " ++ indentRest 4 cause]
  | causes =>
    causes.zipIdx.map fun (cause, number) => "    " ++ toString number ++ ": " ++ indentRest 7 cause

/-- The report of a failure. -/
def Failure.report (failure : Failure) : List String :=
  ["Error: " ++ failure.step, "", "Caused by:"] ++ causeLines failure.causes

/-- The line for a log record. -/
def Record.line (record : Record) : String :=
  "[" ++ record.level.name ++ " " ++ record.target ++ "] " ++ indentRest 4 record.message

/-- The version of the command. -/
def versionText : String :=
  "lucene-sql 0.1.0"

/-- The line that shows how the command is used, painted for a terminal. -/
def usageLine : String :=
  painted .heading "Usage:" ++ " " ++ painted .literal "lucene-sql" ++ " [OPTIONS]"

/-- The answer to a request for help. -/
def helpLines : List String :=
  ["Render a JSON-encoded query expression tree as SQL",
    "",
    plain usageLine,
    "",
    "Options:",
    "  -i, --input <INPUT>      JSON file holding the expression tree (reads stdin when omitted)",
    "  -d, --dialect <DIALECT>  Target SQL dialect (base, postgres) [default: postgres]",
    "      --debug              Enable debug logging",
    "  -h, --help               Print help",
    "  -V, --version            Print version"]

/-- Whether an error is about how the arguments go together, and not about one value. -/
def UsageError.concernsUsage : UsageError → Bool
  | .repeated _ => true
  | .missingValue _ => false
  | .invalidDialect _ _ => false
  | .unexpectedArgument _ => true
  | .unexpectedValue _ _ => true

/-- The report of wrong arguments, painted for a terminal. -/
def UsageError.report (e : UsageError) : List String :=
  [painted .alarm "error:" ++ " " ++ e.message, ""] ++
    (if e.concernsUsage then [usageLine, ""] else []) ++
    ["For more information, try '" ++ painted .literal "--help" ++ "'."]

end SqlFilter
