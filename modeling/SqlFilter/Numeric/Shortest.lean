import SqlFilter.Numeric.Decimal

set_option autoImplicit false

/-! # The shortest decimal that reads back

`Magnitude.shortest` gives the decimal number with the fewest digits whose nearest double is the
given one, and among those the closest. For `n = 1, 2, …, 17` digits the two neighbours of the
exact value on the grid of `n`-digit decimals are tried; the first grid that holds a number
reading back wins. Seventeen digits always suffice, and the exact value stands behind them.
-/

namespace SqlFilter

/-- Which of two equally close decimals is chosen. -/
inductive Tie where
  | toEven
  | up
  deriving DecidableEq, Repr

namespace Magnitude

/-- The exact value: a unit of `2 ^ -1074` is `5 ^ 1074 * 10 ^ -1074`. -/
def exact (x : Magnitude) : Decimal :=
  ⟨x.units * Nat.pow 5 1074, -1074⟩

/-- The power of ten of the leading digit of a magnitude other than zero. The least magnitude is
above `10 ^ -324`, so the whole part of the value times `10 ^ 324` shows all places before it. -/
def leadingPower (x : Magnitude) : Int :=
  ((Nat.toDigits 10 (x.units * Nat.pow 10 324 / Nat.pow 2 1074)).length : Int) - 325

/-- The quotient of the value by `10 ^ power`, as a numerator and a denominator. -/
def ratio (x : Magnitude) (power : Int) : Nat × Nat :=
  match power with
  | .ofNat k => (x.units, Nat.pow 2 1074 * Nat.pow 10 k)
  | .negSucc k => (x.units * Nat.pow 10 (k + 1), Nat.pow 2 1074)

/-- The closer of the two decimals around `num / den * 10 ^ power` that reads back as `x`, if one of
them does. -/
def neighbour? (tie : Tie) (x : Magnitude) (power : Int) (num den : Nat) : Option Decimal :=
  let low : Decimal := ⟨num / den, power⟩
  let high : Decimal := ⟨num / den + 1, power⟩
  let twice := 2 * (num % den)
  let lowIsCloser := twice < den ∨ (twice = den ∧ tie = .toEven ∧ low.digits % 2 = 0)
  if low.nearest? = some x ∧ (lowIsCloser ∨ high.nearest? ≠ some x) then
    some low
  else if high.nearest? = some x then
    some high
  else
    none

/-- The closest decimal with `n` digits that reads back as `x`, if the grid of such decimals
holds one next to `x`. -/
def onGrid? (tie : Tie) (x : Magnitude) (n : Nat) : Option Decimal :=
  let power := x.leadingPower - (n : Int) + 1
  let ratio := x.ratio power
  neighbour? tie x power ratio.1 ratio.2

/-- The decimal with the fewest digits that reads back as `x`. -/
def shortest (tie : Tie) (x : Magnitude) : Decimal :=
  if x.mantissa = 0 then
    ⟨0, 0⟩
  else
    ((List.range' 1 17).findSome? (x.onGrid? tie)).getD x.exact

end Magnitude

end SqlFilter
