import SqlFilter.Log
import SqlFilter.Pattern.Compile
import SqlFilter.Text.Blank

set_option autoImplicit false

/-! # Which records are shown

A filter is written as a list of directives, `target=level`, with commas between them. A level alone
counts for every target, and a target alone lets all its records through. Of the directives whose
target begins the target of a record, the longest decides. A text after a slash is a pattern that
has to match somewhere in the message.
-/

namespace SqlFilter

/-- The most verbose level that is shown, `none` when nothing is. -/
abbrev Verbosity :=
  Option Level

/-- The verbosity of a name, in any case. -/
def Verbosity.ofName? (name : String) : Option Verbosity :=
  match String.ofList (name.toList.map Char.toLower) with
  | "off" => some none
  | "error" => some (some .error)
  | "warn" => some (some .warn)
  | "info" => some (some .info)
  | "debug" => some (some .debug)
  | "trace" => some (some .trace)
  | _ => none

/-- Whether a level is shown. -/
def Verbosity.shows (verbosity : Verbosity) (level : Level) : Bool :=
  match verbosity with
  | none => false
  | some most => level.rank ≤ most.rank

/-- How much is shown of the targets that begin with a text, or of all of them. -/
structure Directive where
  target : Option String
  verbosity : Verbosity
  deriving DecidableEq, Repr

namespace Directive

/-- How special a directive is. -/
def weight (d : Directive) : Nat :=
  (d.target.getD "").utf8ByteSize

/-- Whether a directive concerns the records of a target. -/
def covers (d : Directive) (target : String) : Bool :=
  match d.target with
  | none => true
  | some start => start.toList.isPrefixOf target.toList

end Directive

/-- A choice of records. -/
structure LogFilter where
  directives : List Directive
  /-- a pattern that has to match somewhere in the message -/
  pattern : Option (Pattern Pattern.Atom)
  deriving DecidableEq, Repr

namespace LogFilter

/-- The directive that a text writes, or the part of it that makes no sense. -/
def directive (text : List Char) : Except String Directive :=
  match text.splitOn '=' with
  | [name] =>
    let name := String.ofList name
    match Verbosity.ofName? name with
    | some verbosity => .ok ⟨none, verbosity⟩
    | none => .ok ⟨some name, some .trace⟩
  | [target, level] =>
    let level := String.ofList (Text.trim level)
    if level.isEmpty then
      .ok ⟨some (String.ofList target), some .trace⟩
    else
      match Verbosity.ofName? level with
      | some verbosity => .ok ⟨some (String.ofList target), verbosity⟩
      | none => .error level
  | _ => .error (String.ofList text)

/-- The directives with one more; it takes the place of one for the same target. -/
def insert (directives : List Directive) (d : Directive) : List Directive :=
  if directives.any (·.target == d.target) then
    directives.map fun other => if other.target = d.target then d else other
  else
    directives ++ [d]

/-- The warning about a part of a filter that makes no sense. -/
def warning (part : String) : String :=
  "warning: invalid logging spec '" ++ part ++ "', ignoring it"

/-- The directives in a list of texts, and a warning for each text that is none. -/
def readDirectives (texts : List (List Char)) : List Directive × List String :=
  texts.foldl
    (fun (found, warnings) text =>
      let text := Text.trim text
      if text.isEmpty then
        (found, warnings)
      else
        match directive text with
        | .ok d => (insert found d, warnings)
        | .error part => (found, warnings ++ [warning part]))
    ([], [])

/-- The filter without directives: errors only. -/
def orDefault (found : List Directive) : List Directive :=
  if found.isEmpty then [⟨none, some .error⟩] else found

/-- The pattern that a text writes, or a warning. Without a pattern all messages will do. -/
def readPattern (text : String) : Option (Pattern Pattern.Atom) × List String :=
  match Pattern.ofText text with
  | .ok pattern => (some pattern, [])
  | .error e => (none, ["warning: invalid regex filter - " ++ e.message])

/-- The filter that a text writes, and the warnings about it. -/
def ofSpec (spec : String) : LogFilter × List String :=
  match spec.toList.splitOn '/' with
  | [texts] =>
    let (found, warnings) := readDirectives (texts.splitOn ',')
    (⟨orDefault found, none⟩, warnings)
  | [texts, pattern] =>
    let (found, warnings) := readDirectives (texts.splitOn ',')
    let (pattern, more) := readPattern (String.ofList pattern)
    (⟨orDefault found, pattern⟩, warnings ++ more)
  | _ => (⟨orDefault [], none⟩, [warning spec ++ " (too many '/'s)"])

/-- The filter for all targets alike. -/
def ofLevel (level : Level) : LogFilter :=
  ⟨[⟨none, some level⟩], none⟩

/-- The directive that decides about a target: the longest that covers it, the last of several. -/
def deciding? (filter : LogFilter) (target : String) : Option Directive :=
  filter.directives.foldl
    (fun best d =>
      if d.covers target then
        match best with
        | none => some d
        | some other => if other.weight ≤ d.weight then some d else best
      else
        best)
    none

/-- Whether a record is shown. -/
def shows (filter : LogFilter) (record : Record) : Bool :=
  (match filter.deciding? record.target with
    | none => false
    | some d => Verbosity.shows d.verbosity record.level) &&
  (match filter.pattern with
    | none => true
    | some pattern => pattern.occursIn record.message)

end LogFilter

end SqlFilter
