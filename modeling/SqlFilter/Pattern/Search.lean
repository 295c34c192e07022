import SqlFilter.Pattern.Basic

set_option autoImplicit false

/-! # Searching

A search asks whether a pattern matches somewhere in a text. The places of a text of `n` characters
are the numbers up to `n`, and a set of places is a number, whose binary digits say which places
are in it. For each atom of the pattern there is a `Move`: the places from which it can be made, and
how far it leads. `reach` follows all ways through the pattern at the same time, so that a search
takes no more than a few operations on numbers for each part of the pattern and each repetition.
-/

namespace SqlFilter.Pattern

/-! ## Moves -/

/-- What an atom amounts to in a text: the set of places from which it can be passed, and the number
of characters that it takes. -/
structure Move where
  places : Nat
  length : Nat
  deriving DecidableEq, Repr

/-- The places reached by a move. -/
def Move.from (move : Move) (places : Nat) : Nat :=
  (places &&& move.places) <<< move.length

/-- The number with the given binary digits, the least first. -/
def ofDigits : List Bool → Nat
  | [] => 0
  | digit :: rest => digit.toNat + 2 * ofDigits rest

/-- Whether a character belongs to an ASCII word. -/
def isWordChar (c : Char) : Bool :=
  c.isAlphanum || c = '_'

/-- Whether an edge of a word is between two characters, or at an end of the text. -/
def WordEdge.holds (edge : WordEdge) (before after : Option Char) : Bool :=
  let left := before.any isWordChar
  let right := after.any isWordChar
  match edge with
  | .boundary => left != right
  | .inside => left == right
  | .start => !left && right
  | .stop => left && !right
  | .startHalf => !left
  | .stopHalf => !right

/-- Whether a place between two characters, or at an end of the text, looks as asked. -/
def Look.holds (look : Look) (before after : Option Char) : Bool :=
  match look with
  | .textStart => before = none
  | .textEnd => after = none
  | .lineStart => before = none || before = some '\n'
  | .lineEnd => after = none || after = some '\n'
  | .anyLineStart =>
    before = none || before = some '\n' || (before = some '\r' && after != some '\n')
  | .anyLineEnd =>
    after = none || after = some '\r' || (after = some '\n' && before != some '\r')
  | .word edge _ => edge.holds before after

/-- The characters around each place of a text. -/
def surroundings (text : List Char) : List (Option Char × Option Char) :=
  (none :: text.map some).zip (text.map some ++ [none])

/-- What an atom amounts to in a text. -/
def Atom.move (text : List Char) : Atom → Move
  | .chars set => ⟨ofDigits (text.map set.contains), 1⟩
  | .look l => ⟨ofDigits ((surroundings text).map fun (before, after) => l.holds before after), 0⟩

/-! ## Ways through a pattern -/

/-- A step made a number of times, or until it makes no difference. -/
def iterate (step : Nat → Nat) : Nat → Nat → Nat
  | 0, places => places
  | count + 1, places =>
    let next := step places
    if next = places then places else iterate step count next

/-- The places reached in any number of steps up to a given one. -/
def closure (step : Nat → Nat) : Nat → Nat → Nat
  | 0, places => places
  | count + 1, places =>
    let next := places ||| step places
    if next = places then places else closure step count next

/-- The places that a pattern reaches from a set of places in a text of the given length. A
repetition without limit adds a place with each step or ends. -/
def reach (length : Nat) : Pattern Move → Nat → Nat
  | .empty, places => places
  | .atom move, places => move.from places
  | .sequence p q, places => q.reach length (p.reach length places)
  | .choice p q, places => p.reach length places ||| q.reach length places
  | .group p, places => p.reach length places
  | .times least most p, places =>
    let limit := (most.map (· - least)).getD (length + 1)
    closure (p.reach length) limit (iterate (p.reach length) least places)

/-- Whether a pattern matches somewhere in a text. -/
def occursIn (p : Pattern Atom) (text : String) : Bool :=
  let chars := text.toList
  let everywhere := (1 <<< (chars.length + 1)) - 1
  (p.map (Atom.move chars)).reach chars.length everywhere != 0

end SqlFilter.Pattern
