import SqlFilter.Numeric.Binary64

set_option autoImplicit false

/-! # Decimal numbers and their nearest double

A decimal number is a whole number of digits and a power of ten. `Decimal.nearest?` rounds one to
the double precision format in exact arithmetic. The power of ten may be as large as a text cares
to spell, so numbers far out of range are settled by their size before any power is computed.
-/

namespace SqlFilter

/-- The number `digits * 10 ^ exponent`. -/
structure Decimal where
  digits : Nat
  exponent : Int
  deriving DecidableEq, Repr

namespace Decimal

/-- The magnitude nearest to a decimal number, `none` when that number is too large. The value of
a number with a negative power `10 ^ -k` is below `2 ^ (log2 digits + 1 - 3 * k)`; where this is
less than half a unit the number rounds to zero. -/
def nearest? (d : Decimal) : Option Magnitude :=
  if d.digits = 0 then
    some .zero
  else
    match d.exponent with
    | .ofNat k =>
      if 310 ≤ k then none else Magnitude.nearest? (d.digits * Nat.pow 10 k * Nat.pow 2 1074) 1
    | .negSucc k =>
      if d.digits.log2 + 1076 < 3 * (k + 1) then
        some .zero
      else
        Magnitude.nearest? (d.digits * Nat.pow 2 1074) (Nat.pow 10 (k + 1))

end Decimal

end SqlFilter
