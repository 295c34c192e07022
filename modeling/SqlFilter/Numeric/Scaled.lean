import SqlFilter.Numeric.Binary64

set_option autoImplicit false

/-! # Powers of ten in double precision

`Magnitude.scaled?` computes a whole number times a power of ten in the double precision format: the
number is rounded, so is the power of ten, and so is their product or quotient. Each of the three
is the nearest magnitude, but together they may miss the one that is nearest to the exact value.
Powers are at hand up to `10 ^ 308`, the greatest of the format. A number with a smaller exponent is
divided by that one again and again; a number with a greater exponent is too large, unless it is
zero.
-/

namespace SqlFilter.Magnitude

/-- The number of units in one. -/
def unitsOfOne : Nat :=
  Nat.pow 2 1074

/-- The magnitude nearest to a whole number. -/
def ofNat? (n : Nat) : Option Magnitude :=
  nearest? (n * unitsOfOne) 1

/-- The product, rounded. -/
def mul? (x y : Magnitude) : Option Magnitude :=
  nearest? (x.units * y.units) unitsOfOne

/-- The quotient by a magnitude other than zero, rounded. -/
def div? (x y : Magnitude) : Option Magnitude :=
  nearest? (x.units * unitsOfOne) y.units

/-- The product with a power of ten. -/
def timesTen? (x : Magnitude) (k : Nat) : Option Magnitude :=
  (ofNat? (Nat.pow 10 k)).bind x.mul?

/-- The quotient by a power of ten. -/
def overTen? (x : Magnitude) (k : Nat) : Option Magnitude :=
  (ofNat? (Nat.pow 10 k)).bind x.div?

/-- The quotient by `10 ^ 308`, as often as it is said, and by a last power of ten. Nothing is left
to divide once the number is zero. -/
def shrink? (last : Nat) : Nat → Magnitude → Option Magnitude
  | 0, x => x.overTen? last
  | times + 1, x => if x = zero then some zero else (x.overTen? 308).bind (shrink? last times)

/-- A whole number times a power of ten, rounded at each step; `none` where it is too large. -/
def scaled? (n : Nat) (exponent : Int) : Option Magnitude :=
  (ofNat? n).bind fun x =>
    match exponent with
    | .ofNat k => if k ≤ 308 then x.timesTen? k else if x = zero then some zero else none
    | .negSucc k => x.shrink? (k % 308 + 1) (k / 308)

end SqlFilter.Magnitude
