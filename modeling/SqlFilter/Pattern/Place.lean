import SqlFilter.Text.Blank

set_option autoImplicit false

/-! # Places in the text of a pattern

A `Place` is a line and a column, a `Span` is what lies between two places, and a `Cursor` is a
place with the text that follows it. In a *verbose* text, blanks mean nothing and a comment goes
from a number sign to the end of the line; `settle` passes over them.
-/

namespace SqlFilter.Pattern

/-! ## Places and spans -/

/-- A place in a text: the line and the column of the character that follows it, both counted from
one. -/
structure Place where
  line : Nat
  column : Nat
  deriving DecidableEq, Repr

namespace Place

/-- The place in front of a text. -/
def start : Place :=
  ⟨1, 1⟩

/-- The place after a character. -/
def after (place : Place) (c : Char) : Place :=
  if c = '\n' then ⟨place.line + 1, 1⟩ else ⟨place.line, place.column + 1⟩

/-- Whether a place comes before another or is the same. -/
def before (a b : Place) : Bool :=
  a.line < b.line || (a.line = b.line && a.column ≤ b.column)

end Place

/-- The part of a text between two places. -/
structure Span where
  first : Place
  stop : Place
  deriving DecidableEq, Repr

namespace Span

/-- Whether a span lies on one line. -/
def isOneLine (span : Span) : Bool :=
  span.first.line = span.stop.line

/-- Whether a span comes before another: it starts earlier, or at the same place and ends no
later. -/
def before (a b : Span) : Bool :=
  if a.first = b.first then a.stop.before b.stop else a.first.before b.first

end Span

/-! ## Cursors -/

/-- A place in a text and the text that follows. -/
structure Cursor where
  rest : List Char
  place : Place
  deriving DecidableEq, Repr

namespace Cursor

/-- The start of a text. -/
def ofText (text : List Char) : Cursor :=
  ⟨text, .start⟩

/-- The span of no characters. -/
def here (c : Cursor) : Span :=
  ⟨c.place, c.place⟩

/-- The span from an earlier place. -/
def since (c : Cursor) (first : Place) : Span :=
  ⟨first, c.place⟩

/-- Past one character. -/
def skip (c : Cursor) : Cursor :=
  match c.rest with
  | [] => c
  | ch :: rest => ⟨rest, c.place.after ch⟩

/-- The span of the next character. -/
def next (c : Cursor) : Span :=
  ⟨c.place, c.skip.place⟩

/-- Past a text, if it is what follows. -/
def skip? (c : Cursor) : List Char → Option Cursor
  | [] => some c
  | ch :: text => if c.rest.head? = some ch then c.skip.skip? text else none

/-- Past blanks and comments, from inside a comment or not. -/
def settleFrom (inComment : Bool) (place : Place) : List Char → Cursor
  | [] => ⟨[], place⟩
  | ch :: rest =>
    if inComment then settleFrom (ch != '\n') (place.after ch) rest
    else if Text.isBlank ch then settleFrom false (place.after ch) rest
    else if ch = '#' then settleFrom true (place.after ch) rest
    else ⟨ch :: rest, place⟩

/-- Past blanks and comments, if the text is verbose. -/
def settle (verbose : Bool) (c : Cursor) : Cursor :=
  if verbose then settleFrom false c.place c.rest else c

/-- Past one character and what means nothing after it. -/
def advance (verbose : Bool) (c : Cursor) : Cursor :=
  c.skip.settle verbose

/-- Past characters of a kind, and these characters; `fuel` bounds their number. -/
def collectWith (verbose : Bool) (isKind : Char → Bool) : Nat → Cursor → List Char × Cursor
  | 0, c => ([], c)
  | fuel + 1, c =>
    match c.rest with
    | [] => ([], c)
    | ch :: _ =>
      if isKind ch then
        let (more, after) := collectWith verbose isKind fuel (c.advance verbose)
        (ch :: more, after)
      else
        ([], c)

/-- Past characters of a kind, and these characters. -/
def collect (verbose : Bool) (isKind : Char → Bool) (c : Cursor) : List Char × Cursor :=
  collectWith verbose isKind c.rest.length c

/-- The first character that is neither blank nor the sign of a comment, or else the first of all
characters. -/
def firstOf (text : List Char) (inComment : Bool) : List Char → Option Char
  | [] => text.head?
  | ch :: rest =>
    if Text.isBlank ch then firstOf text inComment rest
    else if ch = '#' ∧ !inComment then firstOf text true rest
    else some ch

/-- The character after the next one. In a verbose text, blanks and the sign of a comment do not
count. -/
def second? (verbose : Bool) (c : Cursor) : Option Char :=
  if verbose then firstOf c.rest.tail false c.rest.tail else c.rest.tail.head?

end Cursor

end SqlFilter.Pattern
