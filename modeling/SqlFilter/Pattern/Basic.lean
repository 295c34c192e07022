import SqlFilter.Pattern.CharSet
import SqlFilter.Pattern.Tree

set_option autoImplicit false

/-! # Patterns

A `Pattern` is built from atoms by sequence, choice and repetition. The atoms of a pattern that has
been read are sets of characters and assertions about a place, `Atom`; a search puts other atoms in
their stead. The functions `joined`, `choice` and `repeated` build patterns and leave out what makes
no difference.
-/

namespace SqlFilter

/-- A pattern over some atoms. -/
inductive Pattern (α : Type) where
  | empty
  | atom (a : α)
  | sequence (first second : Pattern α)
  | choice (first second : Pattern α)
  | group (inner : Pattern α)
  /-- at least so often, and at most so often if there is a limit -/
  | times (least : Nat) (most : Option Nat) (inner : Pattern α)
  deriving DecidableEq, Repr

namespace Pattern

/-- What is asked of a place in a text. -/
inductive Look where
  | textStart
  | textEnd
  | lineStart
  | lineEnd
  /-- the start and the end of a line that may be ended by a carriage return -/
  | anyLineStart
  | anyLineEnd
  /-- an edge of a word of ASCII characters, or of any -/
  | word (edge : WordEdge) (unicode : Bool)
  deriving DecidableEq, Repr

/-- One step of a pattern. -/
inductive Atom where
  /-- a character of a set -/
  | chars (set : CharSet)
  /-- no character, at a place that looks as asked -/
  | look (l : Look)
  deriving DecidableEq, Repr

/-- The pattern with other atoms. -/
def map {α β : Type} (f : α → β) : Pattern α → Pattern β
  | .empty => .empty
  | .atom a => .atom (f a)
  | .sequence p q => .sequence (p.map f) (q.map f)
  | .choice p q => .choice (p.map f) (q.map f)
  | .group p => .group (p.map f)
  | .times least most p => .times least most (p.map f)

/-- Whether an atom of a pattern is of a kind. -/
def any {α : Type} (isKind : α → Bool) : Pattern α → Bool
  | .empty => false
  | .atom a => isKind a
  | .sequence p q | .choice p q => p.any isKind || q.any isKind
  | .group p | .times _ _ p => p.any isKind

/-! ## Lengths -/

/-- Whether a pattern can match the empty text only. -/
def isNarrow : Pattern Atom → Bool
  | .empty => true
  | .atom (.chars _) => false
  | .atom (.look _) => true
  | .sequence p q | .choice p q => p.isNarrow && q.isNarrow
  | .group p | .times _ _ p => p.isNarrow

/-- The least number of characters that a pattern matches, `none` if it matches no text. Assertions
are taken to hold. -/
def least? : Pattern Atom → Option Nat
  | .empty => some 0
  | .atom (.chars set) => if set.ranges.isEmpty then none else some 1
  | .atom (.look _) => some 0
  | .sequence p q => return (← p.least?) + (← q.least?)
  | .choice p q => return min (← p.least?) (← q.least?)
  | .group p => p.least?
  | .times least _ p => return least * (← p.least?)

/-! ## Building -/

/-- One pattern after another. -/
def joined : Pattern Atom → Pattern Atom → Pattern Atom
  | .empty, q => q
  | p, .empty => p
  | p, q => .sequence p q

/-- Patterns one after another. -/
def inSequence (parts : List (Pattern Atom)) : Pattern Atom :=
  parts.foldr joined .empty

/-- The set of characters that a pattern stands for, if it is no more than that. -/
def charSet? : Pattern Atom → Option CharSet
  | .atom (.chars set) => some set
  | _ => none

/-- The branches of a pattern. -/
def branches : Pattern Atom → List (Pattern Atom)
  | .choice p q => p.branches ++ q.branches
  | p => [p]

/-- The pattern with one branch or several. -/
def ofBranches : Pattern Atom → List (Pattern Atom) → Pattern Atom
  | p, [] => p
  | p, q :: rest => .choice p (ofBranches q rest)

/-- One of several patterns. If all are sets of characters, so is the result. -/
def oneOf (parts : List (Pattern Atom)) : Pattern Atom :=
  let parts := parts.flatMap branches
  match parts.mapM charSet?, parts with
  | some sets, _ => .atom (.chars (sets.foldl CharSet.union .empty))
  | none, p :: rest => ofBranches p rest
  | none, [] => .empty

/-- A pattern repeated. What matches the empty text only need not be repeated. -/
def repeated (least : Nat) (most : Option Nat) (p : Pattern Atom) : Pattern Atom :=
  let least := if p.isNarrow then min least 1 else least
  let most := if p.isNarrow then some (min (most.getD 1) 1) else most
  if least = 0 ∧ most = some 0 then .empty
  else if least = 1 ∧ most = some 1 then p
  else .times least most p

end Pattern

end SqlFilter
