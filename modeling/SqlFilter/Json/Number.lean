import SqlFilter.Json.Error
import SqlFilter.Numeric.Scaled
import SqlFilter.Query.Basic

set_option autoImplicit false

/-! # Reading numbers

A number is read one character at a time. `NumberScan` is what the characters so far say, and
`NumberScan.step` takes one more, or says that the number ended before it. The digits are read into
64 bits, and those that do not fit are left out (`Significand`). A number without a fraction and an
exponent is an integer if all its digits fit; every other number is the digits that were read times
a power of ten, computed in double precision, which need not be the nearest double.
-/

namespace SqlFilter.Json

/-! ## Digits -/

/-- The digits of a number as far as 64 bits hold them: the whole number that they write, the power
of ten that the place of the point and the digits left out amount to, and whether digits are left
out from here on. -/
structure Significand where
  value : Nat
  exponent : Int
  full : Bool
  value_lt : value < Nat.pow 2 64
  deriving DecidableEq, Repr

namespace Significand

/-- No digits. -/
def zero : Significand :=
  ⟨0, 0, false, by decide⟩

/-- One more digit, if 64 bits hold it and none was left out before. The exponent changes by `held`
with a digit that is held, and by `left` with one that is left out. -/
def add (held left : Int) (m : Significand) (c : Char) : Significand :=
  if h : m.full = false ∧ 10 * m.value + Binary64.digitValue c < Nat.pow 2 64 then
    ⟨10 * m.value + Binary64.digitValue c, m.exponent + held, false, h.2⟩
  else
    { m with exponent := m.exponent + left, full := true }

/-- One more digit in front of the point. One that is left out makes the number ten times as large. -/
def addWhole : Significand → Char → Significand :=
  add 0 1

/-- The point. The first digit behind it is tried again, also where digits in front of it were left
out. -/
def point (m : Significand) : Significand :=
  { m with full := false }

/-- One more digit behind the point. One that is left out does not count. -/
def addFraction : Significand → Char → Significand :=
  add (-1) 0

end Significand

/-! ## The scan -/

/-- How far a number has been read: what the last character was. -/
inductive NumberPart where
  | sign
  | zero
  | whole
  | point
  | fraction
  | mark
  | markSign
  | power
  deriving DecidableEq, Repr

/-- A number as far as it has been read: its sign, its digits, and its exponent. -/
structure NumberScan where
  part : NumberPart
  negative : Bool
  significand : Significand
  powerNegative : Bool
  power : Nat
  deriving DecidableEq, Repr

/-- What one more character does to a number. -/
inductive NumberStep where
  /-- it belongs to the number -/
  | more (scan : NumberScan)
  /-- the number ended before it -/
  | over
  /-- it cannot stand there -/
  | bad
  deriving DecidableEq, Repr

namespace NumberScan

/-- A number after its first character, a minus sign or a digit. -/
def start (c : Char) : NumberScan :=
  if c = '-' then ⟨.sign, true, .zero, false, 0⟩
  else ⟨if c = '0' then .zero else .whole, false, Significand.zero.addWhole c, false, 0⟩

/-- One more digit in front of the point. -/
def addWhole (s : NumberScan) (part : NumberPart) (c : Char) : NumberScan :=
  { s with part := part, significand := s.significand.addWhole c }

/-- The point. -/
def addPoint (s : NumberScan) : NumberScan :=
  { s with part := .point, significand := s.significand.point }

/-- One more digit behind the point. -/
def addFraction (s : NumberScan) (c : Char) : NumberScan :=
  { s with part := .fraction, significand := s.significand.addFraction c }

/-- One more digit of the exponent. -/
def addPower (s : NumberScan) (c : Char) : NumberScan :=
  { s with part := .power, power := 10 * s.power + Binary64.digitValue c }

/-- Whether a character begins the exponent. -/
def isMark (c : Char) : Bool :=
  c == 'e' || c == 'E'

/-- One more character. -/
def step (s : NumberScan) (c : Char) : NumberStep :=
  match s.part with
  | .sign =>
    if c = '0' then .more (s.addWhole .zero c)
    else if c.isDigit then .more (s.addWhole .whole c)
    else .bad
  | .zero =>
    if c.isDigit then .bad
    else if c = '.' then .more s.addPoint
    else if isMark c then .more { s with part := .mark }
    else .over
  | .whole =>
    if c.isDigit then .more (s.addWhole .whole c)
    else if c = '.' then .more s.addPoint
    else if isMark c then .more { s with part := .mark }
    else .over
  | .point => if c.isDigit then .more (s.addFraction c) else .bad
  | .fraction =>
    if c.isDigit then .more (s.addFraction c)
    else if isMark c then .more { s with part := .mark }
    else .over
  | .mark =>
    if c = '+' then .more { s with part := .markSign }
    else if c = '-' then .more { s with part := .markSign, powerNegative := true }
    else if c.isDigit then .more (s.addPower c)
    else .bad
  | .markSign => if c.isDigit then .more (s.addPower c) else .bad
  | .power => if c.isDigit then .more (s.addPower c) else .over

/-- Whether the number may end here. -/
def isComplete (s : NumberScan) : Bool :=
  match s.part with
  | .zero | .whole | .fraction | .power => true
  | .sign | .point | .mark | .markSign => false

/-- Whether the number is an integer of 64 bits, but for its sign: it has neither a fraction nor an
exponent, and none of its digits is left out. -/
def isInteger (s : NumberScan) : Bool :=
  match s.part with
  | .zero | .whole => !s.significand.full
  | _ => false

/-- The power of ten that the digits are multiplied by. -/
def exponent (s : NumberScan) : Int :=
  s.significand.exponent + if s.powerNegative then -(s.power : Int) else s.power

/-- The digits times the power of ten in double precision, unless that is too large. -/
def float? (s : NumberScan) : Option Scalar :=
  (Magnitude.scaled? s.significand.value s.exponent).map fun x => .float (.finite s.negative x)

/-- The constant that a complete number stands for, `none` if it is too large. The integer minus
zero is a double, because no integer has a sign on its zero, and so is an integer below the signed
ones. -/
def scalar? (s : NumberScan) : Option Scalar :=
  if s.isInteger then
    if s.negative then
      if 0 < s.significand.value ∧ s.significand.value ≤ Nat.pow 2 63 then
        some (.int (Int64.ofInt (-(s.significand.value : Int))))
      else s.float?
    else if s.significand.value < Nat.pow 2 63 then
      some (.int (Int64.ofInt s.significand.value))
    else
      some (.uint (UInt64.ofNat s.significand.value))
  else
    s.float?

end NumberScan

end SqlFilter.Json
