import SqlFilter.Query.Basic
import SqlFilter.Text.Blank

set_option autoImplicit false

/-! # Range boundaries as text

A boundary is written `[min, max]` when its bounds belong to it and `(min, max)` when they do not.
`Boundary.ofText?` reads such a text back, with white space trimmed off the bounds, and
`Boundary.condition` turns a boundary into a condition on the text of an operand.
-/

namespace SqlFilter.Boundary

/-- The text of a boundary. -/
def text (b : Boundary) : String :=
  if b.inclusive then "[" ++ b.min ++ ", " ++ b.max ++ "]" else "(" ++ b.min ++ ", " ++ b.max ++ ")"

/-- The two parts of a text around the first comma with a space after it. -/
def cut? : List Char → Option (List Char × List Char)
  | [] => none
  | ',' :: ' ' :: rest => some ([], rest)
  | c :: rest => (cut? rest).map fun (before, after) => (c :: before, after)

/-- The two bounds in a text without its brackets. The separator must occur exactly once: with a
second one it would be unclear where the first bound ends. -/
def bounds? (text : List Char) : Option (List Char × List Char) := do
  let (min, max) ← cut? text
  if (cut? max).isSome then none else some (min, max)

/-- The text between a given pair of brackets. -/
def between? (opening closing : Char) : List Char → Option (List Char)
  | [] => none
  | first :: rest =>
    if first = opening ∧ rest.getLast? = some closing then some rest.dropLast else none

/-- The boundary in a text without its brackets. Neither bound may be blank. -/
def inside? (inclusive : Bool) (text : List Char) : Option Boundary := do
  let (min, max) ← bounds? text
  let min := Text.trim min
  let max := Text.trim max
  if min.isEmpty || max.isEmpty then
    none
  else
    some ⟨String.ofList min, String.ofList max, inclusive⟩

/-- The boundary that a text writes, its bounds trimmed. -/
def ofText? (text : String) : Option Boundary :=
  match between? '[' ']' text.toList with
  | some inner => inside? true inner
  | none => (between? '(' ')' text.toList).bind (inside? false)

/-- The mark of an open end. -/
def openEnd : String :=
  "*"

/-- The condition that `left` lies within the boundary. With both ends open it only has to be
there. -/
def condition (b : Boundary) (left : String) : String :=
  if b.min = openEnd then
    if b.max = openEnd then left ++ " IS NOT NULL"
    else left ++ (if b.inclusive then " <= " else " < ") ++ b.max
  else if b.max = openEnd then
    left ++ (if b.inclusive then " >= " else " > ") ++ b.min
  else if b.inclusive then
    left ++ " BETWEEN " ++ b.min ++ " AND " ++ b.max
  else
    left ++ " > " ++ b.min ++ " AND " ++ left ++ " < " ++ b.max

end SqlFilter.Boundary
