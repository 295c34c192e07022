import SqlFilter.Json.Error

set_option autoImplicit false

/-! # Reading strings

A string is read one character at a time, from the character after the opening quote to the closing
quote. Characters outside the first plane are escaped as a pair of surrogates, a high one and a low
one; no other surrogate has a meaning. A string that is only walked over is not checked for that.
-/

namespace SqlFilter.Json

/-- Where in a string the reader is. -/
inductive TextPart where
  | plain
  /-- after a backslash -/
  | escape
  /-- inside the digits of an escape: the surrogate before it, the number of bytes seen, the value
  so far, and whether all of them were digits -/
  | unit (high : Option Nat) (bytes value : Nat) (good : Bool)
  /-- after a high surrogate -/
  | pair (high : Nat)
  /-- after a high surrogate and a backslash -/
  | pairEscape (high : Nat)
  deriving DecidableEq, Repr

/-- A string as far as it has been read, the last character first. -/
structure TextScan where
  part : TextPart
  before : List Char
  deriving DecidableEq, Repr

/-- What one more character does to a string. -/
inductive TextStep where
  | more (scan : TextScan)
  /-- it is the closing quote -/
  | over (text : String)
  | bad (fault : Fault)
  deriving DecidableEq, Repr

/-- The value of a hexadecimal digit, in either case. -/
def hexValue? (c : Char) : Option Nat :=
  if c.isDigit then some (c.toNat - '0'.toNat)
  else if 'a' ≤ c ∧ c ≤ 'f' then some (c.toNat - 'a'.toNat + 10)
  else if 'A' ≤ c ∧ c ≤ 'F' then some (c.toNat - 'A'.toNat + 10)
  else none

/-- The character that a letter after a backslash stands for. -/
def shortEscape? (c : Char) : Option Char :=
  if c = '"' ∨ c = '\\' ∨ c = '/' then some c
  else if c = 'b' then some (Char.ofNat 8)
  else if c = 'f' then some (Char.ofNat 12)
  else if c = 'n' then some '\n'
  else if c = 'r' then some '\r'
  else if c = 't' then some '\t'
  else none

/-- Whether a unit is the first half of a pair. -/
def isHigh (unit : Nat) : Bool :=
  decide (0xD800 ≤ unit ∧ unit ≤ 0xDBFF)

/-- Whether a unit is the second half of a pair. -/
def isLow (unit : Nat) : Bool :=
  decide (0xDC00 ≤ unit ∧ unit ≤ 0xDFFF)

/-- The character of a pair. -/
def pairChar (high low : Nat) : Char :=
  Char.ofNat (0x10000 + (high - 0xD800) * 0x400 + (low - 0xDC00))

namespace TextScan

/-- A string of which nothing has been read. -/
def start : TextScan :=
  ⟨.plain, []⟩

/-- The string with one more character. -/
def push (s : TextScan) (c : Char) : TextScan :=
  ⟨.plain, c :: s.before⟩

/-- The four digits of an escape have been read. -/
def closeUnit (s : TextScan) (checked : Bool) (high : Option Nat) (unit : Nat) : TextStep :=
  if checked then
    match high with
    | some high => if isLow unit then .more (s.push (pairChar high unit)) else .bad .loneSurrogate
    | none =>
      if isLow unit then .bad .loneSurrogate
      else if isHigh unit then .more ⟨.pair unit, s.before⟩
      else .more (s.push (Char.ofNat unit))
  else
    .more ⟨.plain, s.before⟩

/-- One more character; `checked` says whether surrogates have to come in pairs. The four places
after `\u` are counted in bytes, and judged when all of them are there. -/
def step (checked : Bool) (s : TextScan) (c : Char) : TextStep :=
  match s.part with
  | .plain =>
    if c = '"' then .over (String.ofList s.before.reverse)
    else if c = '\\' then .more ⟨.escape, s.before⟩
    else if c.toNat < 0x20 then .bad .control
    else .more (s.push c)
  | .escape =>
    if c = 'u' then .more ⟨.unit none 0 0 true, s.before⟩
    else
      match shortEscape? c with
      | some c => .more (s.push c)
      | none => .bad .escape
  | .unit high bytes value good =>
    let bytes := bytes + c.utf8Size
    let good := good && (hexValue? c).isSome
    let value := 16 * value + (hexValue? c).getD 0
    if bytes < 4 then .more ⟨.unit high bytes value good, s.before⟩
    else if good then s.closeUnit checked high value
    else .bad .escape
  | .pair high => if c = '\\' then .more ⟨.pairEscape high, s.before⟩ else .bad .halfPair
  | .pairEscape high =>
    if c = 'u' then .more ⟨.unit (some high) 0 0 true, s.before⟩ else .bad .halfPair

end TextScan

end SqlFilter.Json
