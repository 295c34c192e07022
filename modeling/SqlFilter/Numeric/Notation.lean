import SqlFilter.Numeric.Shortest

set_option autoImplicit false

/-! # How doubles are written

Two notations, both with the shortest digits that read back. `Binary64.plainText` is the one of
SQL: always positional, without a fraction when there is none. `Binary64.jsonText?` is the one of
JSON: a whole number ends in `.0`, numbers below `10 ^ -5` and from `10 ^ 16` on have an exponent,
and there is no text for what is not finite. `Binary64.ofText?` reads a number written in the
first notation, with an exponent or without.
-/

namespace SqlFilter

/-- The digits of a decimal number without zeros at the end, and the power of ten of the first. -/
structure Figures where
  digits : List Char
  power : Int
  deriving DecidableEq, Repr

namespace Decimal

/-- The figures of a decimal number; zero has the single figure `0`. -/
def figures (d : Decimal) : Figures :=
  let all := Nat.toDigits 10 d.digits
  let power := d.exponent + (all.length : Int) - 1
  match (all.reverse.dropWhile (· == '0')).reverse with
  | [] => ⟨['0'], 0⟩
  | digits => ⟨digits, power⟩

end Decimal

namespace Figures

/-- A whole part and a fraction, which has its point only where it has digits. -/
def pointed (whole : List Char) : List Char → List Char
  | [] => whole
  | fraction => whole ++ '.' :: fraction

/-- Positional notation. The point falls after the digit of power `0`; zeros fill the places
between the digits and the point. -/
def plain (f : Figures) : List Char :=
  match f.power with
  | .ofNat k =>
    let whole := f.digits.take (k + 1) ++ List.replicate (k + 1 - f.digits.length) '0'
    pointed whole (f.digits.drop (k + 1))
  | .negSucc k => '0' :: '.' :: (List.replicate k '0' ++ f.digits)

/-- Whether the number has no fraction. -/
def isWhole (f : Figures) : Bool :=
  decide ((f.digits.length : Int) ≤ f.power + 1)

/-- Exponent notation: one digit before the point, and the power with its sign. -/
def scientific (f : Figures) : List Char :=
  let mantissa :=
    match f.digits with
    | first :: second :: rest => first :: '.' :: second :: rest
    | digits => digits
  let exponent :=
    match f.power with
    | .ofNat k => '+' :: Nat.toDigits 10 k
    | .negSucc k => '-' :: Nat.toDigits 10 (k + 1)
  mantissa ++ 'e' :: exponent

/-- The notation of JSON: positional from `10 ^ -5` up to below `10 ^ 16`. -/
def json (f : Figures) : List Char :=
  if -5 ≤ f.power ∧ f.power ≤ 15 then
    if f.isWhole then f.plain ++ ['.', '0'] else f.plain
  else
    f.scientific

end Figures

namespace Binary64

/-- A text with its sign in front. -/
def signed (negative : Bool) (text : List Char) : List Char :=
  if negative then '-' :: text else text

/-- The text in SQL. Of two equally close decimals it takes the larger. -/
def plainText : Binary64 → String
  | .nan => "NaN"
  | .infinite negative => if negative then "-inf" else "inf"
  | .finite negative x => String.ofList (signed negative (x.shortest .up).figures.plain)

/-- The text in JSON, which has no number that is not finite. Of two equally close decimals it
takes the even one. -/
def jsonText? : Binary64 → Option (List Char)
  | .nan | .infinite _ => none
  | .finite negative x => some (signed negative (x.shortest .toEven).figures.json)

/-! ## Reading -/

/-- The value of a decimal digit. -/
def digitValue (c : Char) : Nat :=
  c.toNat - '0'.toNat

/-- The whole number written by a list of decimal digits. -/
def digitsValue (digits : List Char) : Nat :=
  digits.foldl (fun n c => 10 * n + digitValue c) 0

/-- The digits at the start of a text, and the rest. -/
def spanDigits (text : List Char) : List Char × List Char :=
  (text.takeWhile Char.isDigit, text.dropWhile Char.isDigit)

/-- The exponent that ends a number: nothing, or `e` or `E` with a sign or none and digits. -/
def exponentOf? : List Char → Option Int
  | [] => some 0
  | mark :: rest =>
    if mark = 'e' ∨ mark = 'E' then
      match rest with
      | '-' :: digits =>
        if digits ≠ [] ∧ digits.all Char.isDigit then some (-(digitsValue digits : Int)) else none
      | '+' :: digits =>
        if digits ≠ [] ∧ digits.all Char.isDigit then some (digitsValue digits) else none
      | digits =>
        if digits ≠ [] ∧ digits.all Char.isDigit then some (digitsValue digits) else none
    else
      none

/-- The decimal number written by a text without a sign. -/
def decimalOf? (text : List Char) : Option Decimal :=
  let (whole, rest) := spanDigits text
  let (fraction, rest) :=
    match rest with
    | '.' :: rest => spanDigits rest
    | _ => ([], rest)
  if whole.isEmpty && fraction.isEmpty then
    none
  else do
    let exponent ← exponentOf? rest
    return ⟨digitsValue (whole ++ fraction), exponent - (fraction.length : Int)⟩

/-- The number written by a text without a sign: a decimal number rounded to the nearest double,
or one of the names of the numbers that are not finite, in any case. A number too large for the
format is infinite. -/
def unsignedOf? (negative : Bool) (text : List Char) : Option Binary64 :=
  match String.ofList (text.map Char.toLower) with
  | "nan" => some .nan
  | "inf" | "infinity" => some (.infinite negative)
  | _ =>
    (decimalOf? text).map fun d =>
      match d.nearest? with
      | some x => .finite negative x
      | none => .infinite negative

/-- The number that a text writes. -/
def ofText? (text : String) : Option Binary64 :=
  match text.toList with
  | '-' :: rest => unsignedOf? true rest
  | '+' :: rest => unsignedOf? false rest
  | rest => unsignedOf? false rest

end Binary64

end SqlFilter
