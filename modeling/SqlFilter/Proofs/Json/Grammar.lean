import SqlFilter.Json.Reader
import SqlFilter.Proofs.Numeric.Figures

set_option autoImplicit false

/-! # JSON texts

What a JSON text looks like, said without a reader. A text is a sequence of tokens, and any white
space may stand in front of a token. `Spells` says that the text between two quotes stands for a
string, a `NumberForm` is a way of writing a number and `NumberForm.Denotes` its value, and `IsJson`
holds of every well-formed value, whatever it means.
-/

namespace SqlFilter.Json

/-! ## Tokens -/

/-- White space and nothing else. -/
def IsBlank (text : List Char) : Prop :=
  ∀ c ∈ text, isSpace c = true

instance (text : List Char) : Decidable (IsBlank text) :=
  List.decidableBAll (fun c => isSpace c = true) text

/-- The text is a token with white space in front of it. -/
def Spaced (token text : List Char) : Prop :=
  ∃ space, IsBlank space ∧ text = space ++ token

/-! ## Strings -/

/-- The character is a hexadecimal digit of the given value, in either case. -/
def IsHexDigit (c : Char) (value : Nat) : Prop :=
  value < 16 ∧ (c = Nat.digitChar value ∨ c = (Nat.digitChar value).toUpper)

instance (c : Char) (value : Nat) : Decidable (IsHexDigit c value) :=
  inferInstanceAs (Decidable
    (value < 16 ∧ (c = Nat.digitChar value ∨ c = (Nat.digitChar value).toUpper)))

/-- The text is four hexadecimal digits of the given value. -/
inductive IsUnit : List Char → Nat → Prop where
  | mk {a b c d : Char} {x y z w : Nat} (ha : IsHexDigit a x) (hb : IsHexDigit b y)
      (hc : IsHexDigit c z) (hd : IsHexDigit d w) :
      IsUnit [a, b, c, d] (0x1000 * x + 0x100 * y + 0x10 * z + w)

/-- The letters that may stand after a backslash, with the characters that they stand for. -/
def shortEscapes : List (Char × Char) :=
  [('"', '"'), ('\\', '\\'), ('/', '/'), ('b', '\x08'), ('f', '\x0c'), ('n', '\n'), ('r', '\r'),
    ('t', '\t')]

/-- The character may stand in a string as it is. -/
def IsRaw (c : Char) : Prop :=
  ¬ c.toNat < 0x20 ∧ c ≠ '"' ∧ c ≠ '\\'

instance (c : Char) : Decidable (IsRaw c) :=
  inferInstanceAs (Decidable (¬ c.toNat < 0x20 ∧ c ≠ '"' ∧ c ≠ '\\'))

/-- The text between two quotes stands for the characters, each of them raw or escaped. A character
outside the first plane is escaped as a pair of surrogates. -/
inductive Spells : List Char → List Char → Prop where
  | nil : Spells [] []
  | raw {chars text : List Char} {c : Char} (hraw : IsRaw c) (h : Spells chars text) :
      Spells (c :: chars) (c :: text)
  | short {chars text : List Char} {letter c : Char} (hletter : (letter, c) ∈ shortEscapes)
      (h : Spells chars text) : Spells (c :: chars) ('\\' :: letter :: text)
  | unit {chars text digits : List Char} {c : Char} (hdigits : IsUnit digits c.toNat)
      (h : Spells chars text) : Spells (c :: chars) ('\\' :: 'u' :: (digits ++ text))
  | pair {chars text high low : List Char} {c : Char} {x y : Nat} (hx : x < 0x400) (hy : y < 0x400)
      (hhigh : IsUnit high (0xD800 + x)) (hlow : IsUnit low (0xDC00 + y))
      (hc : c.toNat = 0x10000 + 0x400 * x + y) (h : Spells chars text) :
      Spells (c :: chars) ('\\' :: 'u' :: (high ++ '\\' :: 'u' :: (low ++ text)))

/-- The text may stand between two quotes. An escape may write any unit here, also half of a pair
of surrogates. -/
inductive IsStringBody : List Char → Prop where
  | nil : IsStringBody []
  | raw {text : List Char} {c : Char} (hraw : IsRaw c) (h : IsStringBody text) :
      IsStringBody (c :: text)
  | short {text : List Char} {letter c : Char} (hletter : (letter, c) ∈ shortEscapes)
      (h : IsStringBody text) : IsStringBody ('\\' :: letter :: text)
  | unit {text digits : List Char} {value : Nat} (hdigits : IsUnit digits value)
      (h : IsStringBody text) : IsStringBody ('\\' :: 'u' :: (digits ++ text))

/-- A text in quotes. -/
def inQuotes (body : List Char) : List Char :=
  '"' :: (body ++ ['"'])

/-- The text is a string that stands for the given one. -/
def IsName (name : String) (text : List Char) : Prop :=
  ∃ body, Spells name.toList body ∧ Spaced (inQuotes body) text

/-- The text is a string. -/
def IsString (text : List Char) : Prop :=
  ∃ body, IsStringBody body ∧ Spaced (inQuotes body) text

/-! ## Numbers -/

/-- At least one decimal digit, and nothing else. -/
def IsDigits (digits : List Char) : Prop :=
  digits ≠ [] ∧ ∀ c ∈ digits, c.isDigit = true

instance (digits : List Char) : Decidable (IsDigits digits) :=
  have : Decidable (∀ c ∈ digits, c.isDigit = true) := List.decidableBAll _ digits
  instDecidableAnd

/-- The digits that 64 bits hold behind a number that is there already: those of `kept`. With the
first of the others, `rest`, the number would be too large. -/
structure Holds (start : Nat) (digits kept rest : List Char) : Prop where
  append_eq : kept ++ rest = digits
  kept_lt : Nat.ofDigitChars 10 kept start < 2 ^ 64
  le_head : ∀ c ∈ rest.head?, 2 ^ 64 ≤ Nat.ofDigitChars 10 (kept ++ [c]) start

/-- The power of ten at the end of a number: the case of its mark, its sign if it has one, and its
digits. -/
structure PowerForm where
  upper : Bool
  negative? : Option Bool
  digits : List Char
  isDigits : IsDigits digits

namespace PowerForm

/-- The sign, if there is one. -/
def sign (p : PowerForm) : List Char :=
  match p.negative? with
  | none => []
  | some negative => [if negative then '-' else '+']

/-- The text of a power of ten. -/
def text (p : PowerForm) : List Char :=
  (if p.upper then 'E' else 'e') :: (p.sign ++ p.digits)

/-- Whether the exponent of a power of ten is negative. -/
def negative (p : PowerForm) : Bool :=
  p.negative?.getD false

/-- The exponent of a power of ten. -/
def exponent (p : PowerForm) : Int :=
  if p.negative then -(Nat.ofDigitChars 10 p.digits 0 : Int) else Nat.ofDigitChars 10 p.digits 0

end PowerForm

/-- A number as it is written. -/
structure NumberForm where
  negative : Bool
  whole : List Char
  fraction : Option (List Char)
  power : Option PowerForm
  isWhole : IsWhole whole
  isDigits : ∀ digits ∈ fraction, IsDigits digits

namespace NumberForm

/-- The text of a number. -/
def text (f : NumberForm) : List Char :=
  Binary64.signed f.negative f.whole ++
    ((f.fraction.elim [] ('.' :: ·)) ++ f.power.elim [] PowerForm.text)

/-- The digits in front of a power of ten, without the point. -/
def digits (f : NumberForm) : List Char :=
  f.whole ++ f.fraction.getD []

/-- The exponent of its power of ten, zero where there is none. -/
def exponent (f : NumberForm) : Int :=
  f.power.elim 0 PowerForm.exponent

/-- The decimal number, without its sign. -/
def decimal (f : NumberForm) : Decimal :=
  ⟨Nat.ofDigitChars 10 f.digits 0, f.exponent - ((f.fraction.getD []).length : Int)⟩

/-- The whole number that the digits write. -/
def magnitude (f : NumberForm) : Nat :=
  Nat.ofDigitChars 10 f.whole 0

/-- The number is written as an integer of 64 bits, signed or unsigned. There is no integer minus
zero. -/
def IsInteger (f : NumberForm) : Prop :=
  f.fraction = none ∧ f.power = none ∧
    if f.negative then 0 < f.magnitude ∧ f.magnitude ≤ 2 ^ 63 else f.magnitude < 2 ^ 64

/-- The constant that a number stands for. An integer of 64 bits is signed where it fits. Of every
other number the digits that 64 bits hold count, first those in front of the point and then those
behind it, times a power of ten; the product is computed in double precision. -/
inductive Denotes (f : NumberForm) : Scalar → Prop where
  | int {value : Int64} (hinteger : f.IsInteger)
      (hvalue : value.toInt = if f.negative then -(f.magnitude : Int) else f.magnitude) :
      Denotes f (.int value)
  | uint {value : UInt64} (hinteger : f.IsInteger) (hsign : f.negative = false)
      (hlarge : 2 ^ 63 ≤ value.toNat) (hvalue : value.toNat = f.magnitude) : Denotes f (.uint value)
  | float {whole wholeRest fraction fractionRest : List Char} {x : Magnitude}
      (hother : ¬ f.IsInteger) (hwhole : Holds 0 f.whole whole wholeRest)
      (hfraction : Holds (Nat.ofDigitChars 10 whole 0) (f.fraction.getD []) fraction fractionRest)
      (hscaled : Magnitude.scaled? (Nat.ofDigitChars 10 (whole ++ fraction) 0)
        (wholeRest.length - fraction.length + f.exponent) = some x) :
      Denotes f (.float (.finite f.negative x))

end NumberForm

/-! ## Lists and objects -/

/-- The character that opens a list or an object. -/
def Form.opening : Form → Char
  | .object => '\x7b'
  | .array => '['

/-- The character that closes a list or an object. -/
def Form.closing : Form → Char
  | .object => '\x7d'
  | .array => ']'

/-- The text is the items with commas between them. -/
inductive Commas : List (List Char) → List Char → Prop where
  | nil : Commas [] []
  | single (item : List Char) : Commas [item] item
  | cons {item second comma text : List Char} {rest : List (List Char)}
      (hcomma : Spaced [','] comma) (h : Commas (second :: rest) text) :
      Commas (item :: second :: rest) (item ++ (comma ++ text))

/-- The text is the items with commas between them, in brackets or braces. -/
def Encloses (form : Form) (items : List (List Char)) (text : List Char) : Prop :=
  ∃ opening body closing, Spaced [form.opening] opening ∧ Commas items body ∧
    Spaced [form.closing] closing ∧ text = opening ++ (body ++ closing)

/-- The text is a member with the given name and value. -/
def IsMember (name : String) (value text : List Char) : Prop :=
  ∃ key colon, IsName name key ∧ Spaced [':'] colon ∧ text = key ++ (colon ++ value)

/-- The text is a member with the given value. -/
def IsAnyMember (value text : List Char) : Prop :=
  ∃ key colon, IsString key ∧ Spaced [':'] colon ∧ text = key ++ (colon ++ value)

/-- The words of JSON. -/
def words : List (List Char) :=
  ["null".toList, "true".toList, "false".toList]

/-- The text is a well-formed value. -/
inductive IsJson : List Char → Prop where
  | word {word text : List Char} (hword : word ∈ words) (htext : Spaced word text) : IsJson text
  | number {text : List Char} (form : NumberForm) (htext : Spaced form.text text) : IsJson text
  | string {text : List Char} (htext : IsString text) : IsJson text
  | list {items : List (List Char)} {text : List Char} (hitems : ∀ item ∈ items, IsJson item)
      (htext : Encloses .array items text) : IsJson text
  | object {members : List (List Char × List Char)} {text : List Char}
      (hvalues : ∀ m ∈ members, IsJson m.1) (hmembers : ∀ m ∈ members, IsAnyMember m.1 m.2)
      (htext : Encloses .object (members.map Prod.snd) text) : IsJson text

end SqlFilter.Json
