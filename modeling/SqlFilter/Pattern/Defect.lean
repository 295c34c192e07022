import SqlFilter.Pattern.Place

set_option autoImplicit false

/-! # What is wrong with a pattern

A `Defect` is a fault and the part of the pattern that it is about. Its report shows the pattern
with marks below that part. A pattern of several lines is shown with their numbers, and a part that
goes over several lines is described in words.
-/

namespace SqlFilter.Pattern

/-- The ways in which a pattern can be wrong. -/
inductive Fault where
  | classEscape
  | classOrder
  | classBound
  | classOpen
  | decimalInvalid
  | hexEmpty
  | hexInvalid
  | hexDigit
  | escapeOpen
  | escapeUnknown
  | flagDangling
  | flagRepeated
  | flagNegatedTwice
  | flagOpen
  | flagUnknown
  | nameRepeated
  | nameEmpty
  | nameInvalid
  | nameOpen
  | groupOpen
  | groupUnopened
  | nestedTooDeep
  | countOrder
  | countEmpty
  | countOpen
  | nothingToRepeat
  | boundaryOpen
  | boundaryUnknown
  | boundaryEnd
  | propertyInvalid
  | backreference
  | lookAround
  | notAscii
  | notUtf8
  | propertyNotFound
  | propertyValueNotFound
  | shortClassNotFound
  | caseNotAvailable
  deriving DecidableEq, Repr

/-- How deep groups and classes may be nested. -/
def nestLimit : Nat :=
  250

/-- The words for a fault. -/
def Fault.message : Fault → String
  | .classEscape => "invalid escape sequence found in character class"
  | .classOrder => "invalid character class range, the start must be <= the end"
  | .classBound => "invalid range boundary, must be a literal"
  | .classOpen => "unclosed character class"
  | .decimalInvalid => "decimal literal invalid"
  | .hexEmpty => "hexadecimal literal empty"
  | .hexInvalid => "hexadecimal literal is not a Unicode scalar value"
  | .hexDigit => "invalid hexadecimal digit"
  | .escapeOpen => "incomplete escape sequence, reached end of pattern prematurely"
  | .escapeUnknown => "unrecognized escape sequence"
  | .flagDangling => "dangling flag negation operator"
  | .flagRepeated => "duplicate flag"
  | .flagNegatedTwice => "flag negation operator repeated"
  | .flagOpen => "expected flag but got end of regex"
  | .flagUnknown => "unrecognized flag"
  | .nameRepeated => "duplicate capture group name"
  | .nameEmpty => "empty capture group name"
  | .nameInvalid => "invalid capture group character"
  | .nameOpen => "unclosed capture group name"
  | .groupOpen => "unclosed group"
  | .groupUnopened => "unopened group"
  | .nestedTooDeep =>
    "exceed the maximum number of nested parentheses/brackets (" ++ toString nestLimit ++ ")"
  | .countOrder => "invalid repetition count range, the start must be <= the end"
  | .countEmpty => "repetition quantifier expects a valid decimal"
  | .countOpen => "unclosed counted repetition"
  | .nothingToRepeat => "repetition operator missing expression"
  | .boundaryOpen =>
    "special word boundary assertion is either unclosed or contains an invalid character"
  | .boundaryUnknown =>
    "unrecognized special word boundary assertion, " ++
      "valid choices are: start, end, start-half or end-half"
  | .boundaryEnd =>
    "found either the beginning of a special word boundary or a bounded repetition " ++
      "on a \\b with an opening brace, but no closing brace"
  | .propertyInvalid => "invalid Unicode character class"
  | .backreference => "backreferences are not supported"
  | .lookAround => "look-around, including look-ahead and look-behind, is not supported"
  | .notAscii => "Unicode not allowed here"
  | .notUtf8 => "pattern can match invalid UTF-8"
  | .propertyNotFound => "Unicode property not found"
  | .propertyValueNotFound => "Unicode property value not found"
  | .shortClassNotFound =>
    "Unicode-aware Perl class not found (make sure the unicode-perl feature is enabled)"
  | .caseNotAvailable =>
    "Unicode-aware case insensitivity matching is not available " ++
      "(make sure the unicode-case feature is enabled)"

/-- A fault, the part of the pattern that it is about, and an earlier part that it repeats. -/
structure Defect where
  fault : Fault
  span : Span
  earlier : Option Span
  deriving DecidableEq, Repr

namespace Defect

/-- The spans to show, in the order of the text. -/
def spans (d : Defect) : List Span :=
  match d.earlier with
  | none => [d.span]
  | some other => if other.before d.span then [other, d.span] else [d.span, other]

/-- The lines of a text, without what ends them. -/
def linesOf (text : List Char) : List (List Char) :=
  let lines := text.splitOn '\n'
  let ended := lines.dropLast.map fun line =>
    if line.getLast? = some '\r' then line.dropLast else line
  match lines.getLast? with
  | none | some [] => ended
  | some line => ended ++ [line]

/-- Marks below the given spans of one line, from a column on. -/
def marks (column : Nat) : List Span → List Char
  | [] => []
  | span :: rest =>
    let blanks := span.first.column - 1 - column
    let carets := max 1 (span.stop.column - span.first.column)
    List.replicate blanks ' ' ++ List.replicate carets '^' ++
      marks (column + blanks + carets) rest

/-- A number with blanks in front, so that it has at least the given width. -/
def padded (width number : Nat) : List Char :=
  let digits := (toString number).toList
  List.replicate (width - digits.length) ' ' ++ digits

/-- The pattern with marks below the given spans. The lines are numbered if their numbers have a
width. -/
def notated (width : Nat) (spans : List Span) (lines : List (List Char)) : List (List Char) :=
  lines.zipIdx.flatMap fun (line, index) =>
    let shown :=
      if width = 0 then "    ".toList ++ line
      else padded width (index + 1) ++ ": ".toList ++ line
    let margin := List.replicate (if width = 0 then 4 else width + 2) ' '
    match spans.filter fun span => span.isOneLine && span.first.line = index + 1 with
    | [] => [shown]
    | here => [shown, margin ++ marks 0 here]

/-- Where a span lies that goes over several lines. -/
def wide (span : Span) : List Char :=
  ("on line " ++ toString span.first.line ++ " (column " ++ toString span.first.column ++
    ") through line " ++ toString span.stop.line ++ " (column " ++
    toString (span.stop.column - 1) ++ ")").toList

/-- The report of a defect of a pattern. -/
def report (text : String) (d : Defect) : String :=
  let text := text.toList
  let lines := linesOf text
  let count := lines.length + if text.getLast? = some '\n' then 1 else 0
  let width := if count ≤ 1 then 0 else (toString count).length
  let body := notated width d.spans lines
  let divider := List.replicate 79 '~'
  let body :=
    if text.contains '\n' then
      divider :: body ++ divider :: (d.spans.filter fun span => !span.isOneLine).map wide
    else
      body
  String.intercalate "\n"
    (["regex parse error:"] ++ body.map String.ofList ++ ["error: " ++ d.fault.message])

end Defect

end SqlFilter.Pattern
