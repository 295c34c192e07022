import SqlFilter.Pattern.Tree

set_option autoImplicit false

/-! # Escapes

A backslash takes its meaning from a character, or gives one to it. The readers here start at the
backslash or at a character after it, and answer with the tree that is written there and the cursor
after it.
-/

namespace SqlFilter.Pattern

/-- The failure with a fault. -/
def fail {α : Type} (fault : Fault) (span : Span) : Except Defect α :=
  .error ⟨fault, span, none⟩

/-- The failure with a fault that repeats an earlier part. -/
def failAgain {α : Type} (fault : Fault) (span earlier : Span) : Except Defect α :=
  .error ⟨fault, span, some earlier⟩

/-! ## Hexadecimal digits -/

/-- Whether a character is a hexadecimal digit. -/
def isHexDigit (c : Char) : Bool :=
  c.isDigit || ('a' ≤ c && c ≤ 'f') || ('A' ≤ c && c ≤ 'F')

/-- The value of a hexadecimal digit. -/
def hexValue (c : Char) : Nat :=
  if c.isDigit then c.toNat - 48 else if 'a' ≤ c then c.toNat - 87 else c.toNat - 55

/-- The character whose code point is written by hexadecimal digits. -/
def hexChar? (digits : List Char) : Option Char :=
  let code := digits.foldl (fun n c => 16 * n + hexValue c) 0
  if code.isValidChar then some (Char.ofNat code) else none

/-- A fixed number of hexadecimal digits. -/
def readDigits (verbose : Bool) : Nat → Cursor → Except Defect (List Char × Cursor)
  | 0, c => .ok ([], c)
  | count + 1, c =>
    match c.rest with
    | [] => fail .escapeOpen c.here
    | d :: _ =>
      if isHexDigit d then do
        let (more, after) ← readDigits verbose count (c.advance verbose)
        .ok (d :: more, after)
      else
        fail .hexDigit c.next

/-- How many digits follow the letter of an escape. -/
def digitCount (letter : Char) : Nat :=
  if letter = 'x' then 2 else if letter = 'u' then 4 else 8

/-- A character by its code point; the cursor is at the letter. -/
def readHex (verbose : Bool) (start : Place) (letter : Char) (c : Cursor) :
    Except Defect (Tree × Cursor) := do
  let c := c.advance verbose
  match c.rest with
  | [] => fail .escapeOpen c.here
  | '\x7b' :: _ =>
    let (digits, stop) := (c.advance verbose).collect verbose isHexDigit
    match stop.rest with
    | [] => fail .escapeOpen (stop.since c.place)
    | '\x7d' :: _ =>
      let after := stop.advance verbose
      if digits.isEmpty then
        fail .hexEmpty (after.since c.place)
      else
        match hexChar? digits with
        | none => fail .hexInvalid (stop.since c.skip.place)
        | some ch => .ok (.literal ⟨ch, false, after.since start⟩, after)
    | _ => fail .hexDigit stop.next
  | _ =>
    let (digits, after) ← readDigits verbose (digitCount letter) c
    match hexChar? digits with
    | none => fail .hexInvalid (after.since c.place)
    | some ch => .ok (.literal ⟨ch, letter = 'x', after.since start⟩, after)

/-! ## Properties -/

/-- Whether the text in the braces of a property asks for a value. -/
def asksForValue : List Char → Bool
  | [] => false
  | c :: rest => c = ':' || c = '=' || asksForValue rest

/-- A property of characters; the cursor is at the letter. -/
def readProperty (verbose : Bool) (start : Place) (c : Cursor) :
    Except Defect (Tree × Cursor) :=
  let c := c.advance verbose
  match c.rest with
  | [] => fail .escapeOpen c.here
  | '\x7b' :: _ =>
    let (name, stop) := (c.advance verbose).collect verbose (· != '\x7d')
    match stop.rest with
    | [] => fail .escapeOpen stop.here
    | _ =>
      let after := stop.skip
      let p : Property := if asksForValue name then .valued else .named (String.ofList name)
      .ok (.property (after.since start) p, after)
  | '\\' :: _ => fail .propertyInvalid c.next
  | ch :: _ =>
    let after := c.advance verbose
    .ok (.property (after.since start) (.named (String.ofList [ch])), after)

/-! ## Edges of words -/

/-- The edge with a name. -/
def edge? (name : String) : Option WordEdge :=
  match name with
  | "start" => some .start
  | "end" => some .stop
  | "start-half" => some .startHalf
  | "end-half" => some .stopHalf
  | _ => none

/-- Whether a character may stand in the name of an edge. -/
def isEdgeChar (c : Char) : Bool :=
  c.isAlpha || c = '-'

/-- A named edge of words, if there is one; the cursor is at the brace, and `start` is the place of
the escape before it. If the brace opens something else, it is left alone. -/
def readEdge? (verbose : Bool) (start : Place) (c : Cursor) :
    Except Defect (Option (WordEdge × Cursor)) :=
  let name := c.advance verbose
  match name.rest with
  | [] => fail .boundaryEnd (name.since start)
  | ch :: _ =>
    if isEdgeChar ch then
      let (text, stop) := name.collect verbose isEdgeChar
      if stop.rest.head? = some '\x7d' then
        match edge? (String.ofList text) with
        | some edge => .ok (some (edge, stop.skip))
        | none => fail .boundaryUnknown (stop.since name.place)
      else
        fail .boundaryOpen (stop.since c.place)
    else
      .ok none

/-! ## All escapes -/

/-- Whether a backslash takes from an ASCII character any meaning it has. -/
def isPlainEscape (c : Char) : Bool :=
  c.toNat < 0x80 && !c.isAlphanum && c != '<' && c != '>'

/-- The control character for a letter. -/
def control? (letter : Char) : Option Char :=
  match letter with
  | 'a' => some '\x07'
  | 'f' => some '\x0c'
  | 't' => some '\t'
  | 'n' => some '\n'
  | 'r' => some '\r'
  | 'v' => some '\x0b'
  | _ => none

/-- The class for a letter, and whether it is negated. -/
def shortClass? (letter : Char) : Option (ShortClass × Bool) :=
  match letter with
  | 'd' => some (.digit, false)
  | 'D' => some (.digit, true)
  | 's' => some (.space, false)
  | 'S' => some (.space, true)
  | 'w' => some (.word, false)
  | 'W' => some (.word, true)
  | _ => none

/-- The assertion for a character. -/
def assertion? (c : Char) : Option Assertion :=
  match c with
  | 'A' => some .textStart
  | 'z' => some .textEnd
  | 'b' => some (.word .boundary)
  | 'B' => some (.word .inside)
  | '<' => some (.word .start)
  | '>' => some (.word .stop)
  | _ => none

/-- An escape; the cursor is at the backslash. -/
def readEscape (verbose : Bool) (c : Cursor) : Except Defect (Tree × Cursor) :=
  let start := c.place
  let c := c.skip
  match c.rest with
  | [] => fail .escapeOpen (c.since start)
  | ch :: _ =>
    let after := c.skip
    let span := after.since start
    if ch.isDigit then
      fail .backreference span
    else if ch = 'x' ∨ ch = 'u' ∨ ch = 'U' then
      readHex verbose start ch c
    else if ch = 'p' ∨ ch = 'P' then
      readProperty verbose start c
    else if isPlainEscape ch then
      .ok (.literal ⟨ch, false, span⟩, after)
    else
      match shortClass? ch, control? ch, assertion? ch with
      | some (name, negated), _, _ => .ok (.short span name negated, after)
      | none, some control, _ => .ok (.literal ⟨control, false, span⟩, after)
      | none, none, some (.word .boundary) =>
        if after.rest.head? = some '\x7b' then do
          match ← readEdge? verbose start after with
          | some (edge, stop) => .ok (.assertion (stop.since start) (.word edge), stop)
          | none => .ok (.assertion span (.word .boundary), after)
        else
          .ok (.assertion span (.word .boundary), after)
      | none, none, some a => .ok (.assertion span a, after)
      | none, none, none => fail .escapeUnknown span

end SqlFilter.Pattern
