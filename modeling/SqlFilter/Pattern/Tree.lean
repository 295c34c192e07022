import SqlFilter.Pattern.Defect

set_option autoImplicit false

/-! # Patterns as they are written

A `Tree` is a pattern as its author wrote it, with the place of every part, and a `ClassTree` is
what stands between the brackets of a character class. A tree says nothing yet about what matches:
flags are kept as they were written, and an escape for a property of characters by its name.
-/

namespace SqlFilter.Pattern

/-! ## Leaves -/

/-- The classes with an escape of one letter. -/
inductive ShortClass where
  | digit
  | space
  | word
  deriving DecidableEq, Repr

/-- The classes that are written by their names in a bracket. -/
inductive NamedClass where
  | alnum
  | alpha
  | ascii
  | blank
  | cntrl
  | digit
  | graph
  | lower
  | print
  | punct
  | space
  | upper
  | word
  | xdigit
  deriving DecidableEq, Repr

/-- The class with a name. -/
def NamedClass.ofName? (name : String) : Option NamedClass :=
  match name with
  | "alnum" => some .alnum
  | "alpha" => some .alpha
  | "ascii" => some .ascii
  | "blank" => some .blank
  | "cntrl" => some .cntrl
  | "digit" => some .digit
  | "graph" => some .graph
  | "lower" => some .lower
  | "print" => some .print
  | "punct" => some .punct
  | "space" => some .space
  | "upper" => some .upper
  | "word" => some .word
  | "xdigit" => some .xdigit
  | _ => none

/-- The edges of words. -/
inductive WordEdge where
  /-- between a character of a word and another -/
  | boundary
  /-- at every other place -/
  | inside
  | start
  | stop
  /-- at the start of a word, or where no word is to the left -/
  | startHalf
  /-- at the end of a word, or where no word is to the right -/
  | stopHalf
  deriving DecidableEq, Repr

/-- What can be asked of a place. -/
inductive Assertion where
  | lineStart
  | lineEnd
  | textStart
  | textEnd
  | word (edge : WordEdge)
  deriving DecidableEq, Repr

/-- A property of characters, as it is asked for. -/
inductive Property where
  /-- by one name -/
  | named (name : String)
  /-- by a name and a value -/
  | valued
  deriving DecidableEq, Repr

/-- What can be switched on and off inside a pattern. -/
inductive Switch where
  | caseless
  | multiLine
  | dotAll
  | swapGreed
  | unicode
  | carriageReturns
  | verbose
  deriving DecidableEq, Repr

/-- The switch for a letter. -/
def Switch.ofLetter? (c : Char) : Option Switch :=
  match c with
  | 'i' => some .caseless
  | 'm' => some .multiLine
  | 's' => some .dotAll
  | 'U' => some .swapGreed
  | 'u' => some .unicode
  | 'R' => some .carriageReturns
  | 'x' => some .verbose
  | _ => none

/-- What happens to switches. -/
abbrev Changes :=
  List (Switch × Bool)

/-- A character of a pattern. -/
structure Literal where
  char : Char
  /-- whether it is written as a byte, by two hexadecimal digits -/
  isByte : Bool
  span : Span
  deriving DecidableEq, Repr

/-! ## Character classes -/

/-- The operations on character classes. -/
inductive ClassOp where
  | intersection
  | difference
  | symmetricDifference
  deriving DecidableEq, Repr

/-- What stands between the brackets of a character class. -/
inductive ClassTree where
  | empty (span : Span)
  | literal (l : Literal)
  | range (span : Span) (first last : Literal)
  | named (span : Span) (name : NamedClass) (negated : Bool)
  | short (span : Span) (name : ShortClass) (negated : Bool)
  | property (span : Span) (p : Property)
  | bracketed (span : Span) (negated : Bool) (inner : ClassTree)
  | union (span : Span) (items : List ClassTree)
  | operation (span : Span) (op : ClassOp) (left right : ClassTree)

namespace ClassTree

/-- The part of the pattern that a class is written in. -/
def span : ClassTree → Span
  | .empty s => s
  | .literal l => l.span
  | .range s _ _ => s
  | .named s _ _ => s
  | .short s _ _ => s
  | .property s _ => s
  | .bracketed s _ _ => s
  | .union s _ => s
  | .operation s _ _ _ => s

mutual

/-- The first part that is nested deeper than allowed. -/
def tooDeep? (allowed : Nat) : ClassTree → Option Span
  | .bracketed s _ inner =>
    match allowed with
    | 0 => some s
    | rest + 1 => tooDeep? rest inner
  | .union s items =>
    match allowed with
    | 0 => some s
    | rest + 1 => anyTooDeep? rest items
  | .operation s _ left right =>
    match allowed with
    | 0 => some s
    | rest + 1 => (tooDeep? rest left).or (tooDeep? rest right)
  | _ => none

/-- The first part of several classes that is nested deeper than allowed. -/
def anyTooDeep? (allowed : Nat) : List ClassTree → Option Span
  | [] => none
  | item :: rest => (tooDeep? allowed item).or (anyTooDeep? allowed rest)

end

end ClassTree

/-! ## Patterns -/

/-- What a group does besides keeping its parts together. -/
inductive GroupKind where
  /-- it remembers what it matched -/
  | captured
  /-- it changes switches, up to its end -/
  | plain (changes : Changes)
  deriving DecidableEq, Repr

/-- A pattern as it is written. -/
inductive Tree where
  | empty (span : Span)
  | changes (span : Span) (changes : Changes)
  | literal (l : Literal)
  | dot (span : Span)
  | assertion (span : Span) (a : Assertion)
  | short (span : Span) (name : ShortClass) (negated : Bool)
  | property (span : Span) (p : Property)
  | bracketed (span : Span) (negated : Bool) (inner : ClassTree)
  | repeated (span : Span) (least : Nat) (most : Option Nat) (inner : Tree)
  | group (span : Span) (kind : GroupKind) (inner : Tree)
  | choice (span : Span) (branches : List Tree)
  | sequence (span : Span) (parts : List Tree)

namespace Tree

/-- The part of the pattern that a tree is written in. -/
def span : Tree → Span
  | .empty s => s
  | .changes s _ => s
  | .literal l => l.span
  | .dot s => s
  | .assertion s _ => s
  | .short s _ _ => s
  | .property s _ => s
  | .bracketed s _ _ => s
  | .repeated s _ _ _ => s
  | .group s _ _ => s
  | .choice s _ => s
  | .sequence s _ => s

mutual

/-- The first part that is nested deeper than allowed. -/
def tooDeep? (allowed : Nat) : Tree → Option Span
  | .bracketed s _ inner =>
    match allowed with
    | 0 => some s
    | rest + 1 => inner.tooDeep? rest
  | .repeated s _ _ inner =>
    match allowed with
    | 0 => some s
    | rest + 1 => tooDeep? rest inner
  | .group s _ inner =>
    match allowed with
    | 0 => some s
    | rest + 1 => tooDeep? rest inner
  | .choice s branches =>
    match allowed with
    | 0 => some s
    | rest + 1 => anyTooDeep? rest branches
  | .sequence s parts =>
    match allowed with
    | 0 => some s
    | rest + 1 => anyTooDeep? rest parts
  | _ => none

/-- The first part of several patterns that is nested deeper than allowed. -/
def anyTooDeep? (allowed : Nat) : List Tree → Option Span
  | [] => none
  | item :: rest => (tooDeep? allowed item).or (anyTooDeep? allowed rest)

end

end Tree

end SqlFilter.Pattern
