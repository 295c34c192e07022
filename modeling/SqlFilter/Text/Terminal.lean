set_option autoImplicit false

/-! # Text for a terminal

A text for a terminal may hold control sequences. They colour what follows, move the cursor or give
other orders, and leave no mark of their own. `painted` puts a text between the sequences for a
style, and `plain` is what a stream that is no terminal shows of a text: everything except control
characters and the sequences.

An escape starts a sequence. What follows it says of which kind the sequence is, and where it ends:
a short sequence ends with its first character that is no punctuation, a control sequence with its
first letter, and a string goes on until it is closed. Line feeds, tabs and the like are shown
inside all sequences but strings, and the text after them counts as text.
-/

namespace SqlFilter.Text

/-! ## Styles -/

/-- How a part of a message stands out. -/
inductive Style where
  /-- the word that says that something is wrong -/
  | alarm
  /-- what is wrong -/
  | wrong
  /-- what may be written as it stands -/
  | literal
  /-- the word that starts a paragraph -/
  | heading
  deriving DecidableEq, Repr

/-- The sequences that start a style. -/
def Style.start : Style → String
  | .alarm => "\x1b[1m\x1b[31m"
  | .wrong => "\x1b[33m"
  | .literal => "\x1b[1m"
  | .heading => "\x1b[1m\x1b[4m"

/-- A text in a style. -/
def painted (style : Style) (text : String) : String :=
  style.start ++ text ++ "\x1b[0m"

/-! ## Sequences -/

/-- How far a sequence has been read. -/
inductive Sequence where
  /-- not in a sequence -/
  | none
  /-- after the escape -/
  | escape
  /-- a short sequence, after its first punctuation -/
  | short
  /-- a control sequence -/
  | control
  /-- a device string, at its start, in its parameters, and after them -/
  | device
  | deviceParameters
  | deviceMiddle
  /-- inside a string for the system -/
  | command
  /-- inside another string -/
  | string
  deriving DecidableEq, Repr

namespace Sequence

/-- Whether the code point of a character is between two others, both included. -/
def between (first last : Nat) (c : Char) : Bool :=
  first ≤ c.toNat && c.toNat ≤ last

/-- The sequence after an escape and one more character. -/
def opened (c : Char) : Sequence :=
  if between 0x20 0x2F c then .short
  else if c = '[' then .control
  else if c = ']' then .command
  else if c = 'P' then .device
  else if c = 'X' ∨ c = '^' ∨ c = '_' then .string
  else if between 0x30 0x7E c then .none
  else .escape

/-- Whether the encoding of a character has the byte that closes a string. -/
def closes (c : Char) : Bool :=
  (String.utf8EncodeChar c).contains 0x9C

/-- The sequence after one more character that is not shown. An escape starts a new sequence
everywhere, and the controls cancel and substitute end the present one. -/
def after (sequence : Sequence) (c : Char) : Sequence :=
  if c = '\x1b' then .escape
  else if c = '\x18' ∨ c = '\x1a' then .none
  else
    match sequence with
    | .none => .none
    | .escape => opened c
    | .short => if between 0x30 0x7E c then .none else .short
    | .control => if between 0x40 0x7E c then .none else .control
    | .device =>
      if between 0x20 0x2F c then .deviceMiddle
      else if between 0x30 0x3F c then .deviceParameters
      else if between 0x40 0x7E c then .string
      else .device
    | .deviceParameters =>
      if between 0x20 0x2F c then .deviceMiddle
      else if between 0x3C 0x7E c then .string
      else .deviceParameters
    | .deviceMiddle => if between 0x30 0x7E c then .string else .deviceMiddle
    | .command => if c = '\x07' then .none else .command
    | .string => if closes c then .none else .string

/-- Whether a character is a control that lays out text. -/
def isLayout (c : Char) : Bool :=
  c = '\t' || c = '\n' || c = '\x0c' || c = '\r'

/-- Whether a character of a text is shown. -/
def isShown (c : Char) : Bool :=
  isLayout c || (0x20 ≤ c.toNat && c != '\x7f')

/-- Whether a character is shown that is met in a sequence. -/
def shows (sequence : Sequence) (c : Char) : Bool :=
  match sequence with
  | .none => isShown c
  | .escape | .short | .control => isLayout c
  | _ => false

/-- What is shown of a text that starts in a sequence. After a character that is shown the
sequence rests, and it goes on where the text is interrupted, unless a character beyond ASCII came
in between. -/
def plainFrom (resting : Bool) (sequence : Sequence) : List Char → List Char
  | [] => []
  | c :: rest =>
    if (resting && isShown c) || sequence.shows c then
      c :: plainFrom true (if c.toNat < 0x80 then sequence else .none) rest
    else
      plainFrom false (sequence.after c) rest

end Sequence

/-- What is shown of a text where there is no terminal. -/
def plain (text : String) : String :=
  String.ofList (Sequence.plainFrom false .none text.toList)

end SqlFilter.Text
