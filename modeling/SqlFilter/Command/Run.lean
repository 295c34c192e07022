import SqlFilter.Command.LogFilter
import SqlFilter.Command.Report
import SqlFilter.Json.Reader
import SqlFilter.Sql.Render

set_option autoImplicit false

/-! # A run of the command

A run reads a JSON document from a file or from standard input, renders the tree in it and writes
the SQL text on a line of its own. The log goes to standard error, before the report of a failure.
A run that fails writes nothing to standard output.
-/

namespace SqlFilter

/-! ## Loading -/

/-- The tree in the bytes of a file. -/
def Expr.load (bytes : Except FileError ByteArray) : Except LoadError Expr :=
  match bytes.bind decode with
  | .error e => .error (.file e)
  | .ok document =>
    match Expr.ofJson document with
    | .error e => .error (.json e)
    | .ok tree => .ok tree

/-! ## The pipeline -/

namespace Settings

/-- The tree in the bytes of the source, the file that the settings name or standard input. -/
def load (settings : Settings) (source : Except FileError ByteArray) : Except Failure Expr :=
  match settings.input, Expr.load source with
  | _, .ok tree => .ok tree
  | some path, .error e => .error (.file path e)
  | none, .error (.file e) => .error (.input e)
  | none, .error (.json e) => .error (.document e)

/-- The record that a tree was loaded. -/
def loaded (tree : Expr) : Record :=
  ⟨.debug, "lucene_sql", "Loaded expression tree of depth " ++ toString tree.depth⟩

/-- The records of a run and its result. -/
def render (settings : Settings) (source : Except FileError ByteArray) :
    List Record × Except Failure String :=
  match settings.load source with
  | .error failure => ([], .error failure)
  | .ok tree =>
    let (built, table) := settings.dialect.built
    let walk := table.walk tree
    (loaded tree :: built.record :: walk.events.map Event.record,
      match walk.outcome with
      | .ok sql => .ok sql
      | .error e => .error (.render settings.dialect e))

/-- The choice of records: the one that is asked for from outside, or else everything up to the
debug or the information level. -/
def logFilter (settings : Settings) (spec : Option String) : LogFilter × List String :=
  match spec with
  | some spec => LogFilter.ofSpec spec
  | none => (.ofLevel (if settings.debug then .debug else .info), [])

end Settings

/-! ## What a run leaves behind -/

/-- The exit code of a run and the texts it wrote. -/
structure Outcome where
  exit : Nat
  stdout : String
  stderr : String
  deriving DecidableEq, Repr

/-- Lines as one text. -/
def textOfLines (lines : List String) : String :=
  String.join (lines.map (· ++ "\n"))

/-- What a run with the given settings leaves behind. -/
def Settings.run (settings : Settings) (spec : Option String)
    (source : Except FileError ByteArray) : Outcome :=
  let (filter, warnings) := settings.logFilter spec
  let (records, result) := settings.render source
  let log := warnings ++ (records.filter filter.shows).map Record.line
  match result with
  | .ok sql => ⟨0, sql ++ "\n", textOfLines log⟩
  | .error failure => ⟨1, "", textOfLines (log ++ failure.report)⟩

/-- What a run that was not asked for leaves behind. Standard error is taken for a stream that is
no terminal. -/
def UsageError.outcome (e : UsageError) : Outcome :=
  ⟨2, "", Text.plain (textOfLines e.report)⟩

/-- What surrounds a run: its standard input, the files in reach, and the choice of log records. -/
structure Surroundings where
  stdin : ByteArray
  file : String → Except FileError ByteArray
  logSpec : Option String

/-- The bytes that a run with the given settings reads. -/
def Surroundings.source (around : Surroundings) (settings : Settings) :
    Except FileError ByteArray :=
  match settings.input with
  | some path => around.file path
  | none => .ok around.stdin

/-- What the command leaves behind. -/
def runCommand (arguments : List String) (around : Surroundings) : Outcome :=
  match Request.ofArguments arguments with
  | .error e => e.outcome
  | .ok .help => ⟨0, textOfLines helpLines, ""⟩
  | .ok .version => ⟨0, versionText ++ "\n", ""⟩
  | .ok (.run settings) => settings.run around.logSpec (around.source settings)

end SqlFilter
