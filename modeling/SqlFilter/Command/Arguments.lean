import SqlFilter.Sql.Dialect
import SqlFilter.Text.Terminal

set_option autoImplicit false

/-! # Command line arguments

The command takes two options with a value, `--input` and `--dialect`, and the flag `--debug`; it
also answers `--help` and `--version`. An option may be given once. The value of an option stands
in the same argument or in the next one. In the latter case it is judged only when the next option
is met, or at the end, so that an argument that does not belong there is reported first.
-/

namespace SqlFilter

open Text (painted)

/-- What a run of the command is asked to do. -/
structure Settings where
  /-- the file to read, standard input when there is none -/
  input : Option String
  dialect : Dialect
  debug : Bool
  deriving DecidableEq, Repr

/-- The options that take a value. -/
inductive ValueOption where
  | input
  | dialect
  deriving DecidableEq, Repr

/-- The arguments without a value. -/
inductive Flag where
  | debug
  | help
  | version
  deriving DecidableEq, Repr

/-- How an option is shown to the user. -/
def ValueOption.title : ValueOption → String
  | .input => "--input <INPUT>"
  | .dialect => "--dialect <DIALECT>"

/-- How a flag is shown to the user. -/
def Flag.title : Flag → String
  | .debug => "--debug"
  | .help => "--help"
  | .version => "--version"

/-- What is wrong with the arguments. -/
inductive UsageError where
  | repeated (title : String)
  | missingValue (option : ValueOption)
  | invalidDialect (value reason : String)
  | unexpectedArgument (argument : String)
  | unexpectedValue (value : String) (flag : Flag)
  deriving DecidableEq, Repr

/-- The words for what is wrong, painted for a terminal. -/
def UsageError.message : UsageError → String
  | .repeated title =>
    "the argument '" ++ painted .literal title ++ "' cannot be used multiple times"
  | .missingValue option =>
    "a value is required for '" ++ painted .literal option.title ++ "' but none was supplied"
  | .invalidDialect value reason =>
    "invalid value '" ++ painted .wrong value ++ "' for '" ++
      painted .literal ValueOption.dialect.title ++ "': " ++ reason
  | .unexpectedArgument argument =>
    "unexpected argument '" ++ painted .wrong argument ++ "' found"
  | .unexpectedValue value flag =>
    "unexpected value '" ++ painted .wrong value ++ "' for '" ++ painted .literal flag.title ++
      "' found; no more were expected"

/-- What the arguments call for. -/
inductive Request where
  | run (settings : Settings)
  | help
  | version
  deriving DecidableEq, Repr

/-- Why the arguments are read no further. -/
inductive Stop where
  | help
  | version
  | error (error : UsageError)
  deriving DecidableEq, Repr

/-- The arguments as far as they have been read. -/
structure Arguments where
  input : Option String
  dialect : Option Dialect
  debug : Bool
  /-- the last option, if its value has not been judged, with that value if it is there -/
  pending : Option (ValueOption × Option String)
  deriving DecidableEq, Repr

namespace Arguments

/-- No arguments. -/
def none : Arguments :=
  ⟨.none, .none, false, .none⟩

/-- Whether an option has its value. -/
def has (args : Arguments) : ValueOption → Bool
  | .input => args.input.isSome
  | .dialect => args.dialect.isSome

/-- The arguments with the value of an option. -/
def store (args : Arguments) (option : ValueOption) (value : String) : Except Stop Arguments :=
  if args.has option then
    .error (.error (.repeated option.title))
  else
    match option with
    | .input =>
      if value.isEmpty then .error (.error (.missingValue option))
      else .ok { args with input := some value }
    | .dialect =>
      match Dialect.ofName value with
      | .ok dialect => .ok { args with dialect := some dialect }
      | .error name => .error (.error (.invalidDialect value (Dialect.unknownMessage name)))

/-- The arguments with the value of the last option judged. -/
def settle (args : Arguments) : Except Stop Arguments :=
  match args.pending with
  | .none => .ok args
  | some (option, .none) => .error (.error (.missingValue option))
  | some (option, some value) => store { args with pending := .none } option value

/-- An option with its value in the same argument, or without. -/
def option (args : Arguments) (option : ValueOption) (value : Option String) :
    Except Stop Arguments := do
  let args ← args.settle
  match value with
  | .none => .ok { args with pending := some (option, .none) }
  | some value => args.store option value

/-- A flag. -/
def flag (args : Arguments) (flag : Flag) : Except Stop Arguments := do
  let args ← args.settle
  match flag with
  | .debug =>
    if args.debug then .error (.error (.repeated flag.title)) else .ok { args with debug := true }
  | .help => .error .help
  | .version => .error .version

/-- An argument that belongs to nothing. -/
def unexpected (argument : String) : Except Stop Arguments :=
  .error (.error (.unexpectedArgument argument))

/-- The name before the first equals sign, and the value after it if there is one. -/
def splitValue (text : List Char) : String × Option String :=
  match text.dropWhile (· != '=') with
  | [] => (String.ofList text, .none)
  | _ :: value => (String.ofList (text.takeWhile (· != '=')), some (String.ofList value))

/-- An argument that starts with two dashes. -/
def long (args : Arguments) (text : List Char) : Except Stop Arguments :=
  let (name, value) := splitValue text
  let flag? : Option Flag :=
    match name with
    | "debug" => some .debug
    | "help" => some .help
    | "version" => some .version
    | _ => .none
  match name, flag?, value with
  | "input", _, value => args.option .input value
  | "dialect", _, value => args.option .dialect value
  | _, some flag, .none => args.flag flag
  | _, some flag, some value => .error (.error (.unexpectedValue value flag))
  | name, .none, _ => unexpected ("--" ++ name)

/-- The value that follows a letter in the same argument; an equals sign between them is no part
of it. -/
def attached : List Char → Option String
  | [] => .none
  | '=' :: value => some (String.ofList value)
  | value => some (String.ofList value)

/-- An argument that starts with one dash. Only its first letter counts: what follows it is a
value, and the flags that have a letter end the reading. -/
def short (args : Arguments) : List Char → Except Stop Arguments
  | 'i' :: rest => args.option .input (attached rest)
  | 'd' :: rest => args.option .dialect (attached rest)
  | 'h' :: _ => args.flag .help
  | 'V' :: _ => args.flag .version
  | c :: _ => unexpected (String.ofList ['-', c])
  | [] => unexpected "-"

/-- An argument that is neither an option nor a flag: the value of the option before it, if that
has none yet. -/
def plain (args : Arguments) (argument : String) : Except Stop Arguments :=
  match args.pending with
  | some (option, .none) => .ok { args with pending := some (option, some argument) }
  | _ => unexpected argument

/-- One argument. A lone dash is neither an option nor a flag. -/
def read (args : Arguments) (argument : String) : Except Stop Arguments :=
  match argument.toList with
  | '-' :: '-' :: text => args.long text
  | '-' :: c :: text => args.short (c :: text)
  | _ => args.plain argument

/-- All arguments. Nothing may follow a lone double dash. -/
def readAll (args : Arguments) : List String → Except Stop Arguments
  | [] => args.settle
  | "--" :: rest =>
    match rest with
    | [] => args.settle
    | argument :: _ => unexpected argument
  | argument :: rest => do
    let args ← args.read argument
    args.readAll rest

/-- The settings that the arguments amount to. -/
def settings (args : Arguments) : Settings :=
  ⟨args.input, args.dialect.getD .default, args.debug⟩

end Arguments

/-- What the arguments of the command call for. -/
def Request.ofArguments (arguments : List String) : Except UsageError Request :=
  match Arguments.none.readAll arguments with
  | .ok args => .ok (.run args.settings)
  | .error .help => .ok .help
  | .error .version => .ok .version
  | .error (.error e) => .error e

end SqlFilter
