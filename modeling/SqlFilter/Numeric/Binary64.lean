set_option autoImplicit false

/-! # Binary floating point of double precision

A finite number is a sign and a magnitude, and a magnitude is a whole number of units of
`2 ^ -1074`, the smallest positive number of the format: `mantissa * 2 ^ scale` units, with a
mantissa of at most 53 bits. The bounds make the pair unique, so two magnitudes are equal as
numbers exactly when they are equal as pairs. The two zeros differ in their sign only.
-/

namespace SqlFilter

/-- A nonnegative finite number: `mantissa * 2 ^ scale` units of `2 ^ -1074`. The mantissa uses all
53 bits unless the scale is the least one. -/
structure Magnitude where
  mantissa : Nat
  scale : Nat
  mantissa_lt : mantissa < Nat.pow 2 53
  scale_le : scale ≤ 2045
  full : scale = 0 ∨ Nat.pow 2 52 ≤ mantissa
  deriving DecidableEq

/-- A number of the double precision format, with its sign where it has one. -/
inductive Binary64 where
  | nan
  | infinite (negative : Bool)
  | finite (negative : Bool) (magnitude : Magnitude)
  deriving DecidableEq

namespace Magnitude

/-- The magnitude with the given parts, if they are in range. -/
def ofParts? (mantissa scale : Nat) : Option Magnitude :=
  if h : mantissa < Nat.pow 2 53 ∧ scale ≤ 2045 ∧ (scale = 0 ∨ Nat.pow 2 52 ≤ mantissa) then
    some ⟨mantissa, scale, h.1, h.2.1, h.2.2⟩
  else
    none

/-- The magnitude of zero. -/
def zero : Magnitude :=
  ⟨0, 0, by decide, by decide, .inl rfl⟩

/-- The number of units of `2 ^ -1074`. -/
def units (x : Magnitude) : Nat :=
  x.mantissa * Nat.pow 2 x.scale

theorem ofParts?_eq (x : Magnitude) : ofParts? x.mantissa x.scale = some x :=
  dif_pos ⟨x.mantissa_lt, x.scale_le, x.full⟩

/-- The quotient of two whole numbers, rounded to the nearest whole number; a half goes to the
even neighbour. -/
def roundQuotient (num den : Nat) : Nat :=
  let low := num / den
  let twice := 2 * (num % den)
  if twice < den ∨ (twice = den ∧ low % 2 = 0) then low else low + 1

/-- The magnitude nearest to `num / den` units, or `none` when it would be too large for the
format. The quotient is first cut to 53 bits, and a mantissa rounded up to the next power of two
moves to the next scale. -/
def nearest? (num den : Nat) : Option Magnitude :=
  let scale := (num / den).log2 - 52
  let mantissa := roundQuotient num (den * Nat.pow 2 scale)
  if mantissa = Nat.pow 2 53 then ofParts? (Nat.pow 2 52) (scale + 1) else ofParts? mantissa scale

end Magnitude

namespace Binary64

/-- Comparison of numbers: not-a-number differs from everything, and the two zeros are equal. -/
def same : Binary64 → Binary64 → Bool
  | .infinite s, .infinite t => s == t
  | .finite s x, .finite t y => x == y && (s == t || x.mantissa == 0)
  | _, _ => false

/-- Whether the number is neither infinite nor not-a-number. -/
def isFinite : Binary64 → Bool
  | .finite .. => true
  | .nan | .infinite _ => false

end Binary64

end SqlFilter
