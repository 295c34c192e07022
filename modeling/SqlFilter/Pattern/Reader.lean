import SqlFilter.Pattern.Bracket
import SqlFilter.Text.Letter

set_option autoImplicit false

/-! # Reading a pattern

`Tree.ofText` reads a pattern. Groups are read by recursion: inside a group, a bracket that closes
ends it, and the text must not end before. What `Body` holds while a group is read is the present
branch of the group and the branches before it.
-/

namespace SqlFilter.Pattern

/-! ## Repetition -/

/-- A number in decimal digits, with blanks around it, and the cursor after it; the cursor moves on
also when there is no number. -/
def readDecimal (verbose : Bool) (c : Cursor) : Except Defect Nat × Cursor :=
  let (_, c) := c.collect false Text.isBlank
  let (digits, stop) := c.collect verbose Char.isDigit
  let span := stop.since c.place
  let (_, after) := stop.collect verbose Text.isBlank
  let value := digits.foldl (fun n d => 10 * n + (d.toNat - 48)) 0
  if digits.isEmpty then (fail .countEmpty span, after)
  else if UInt32.size ≤ value then (fail .decimalInvalid span, after)
  else (.ok value, after)

/-- Past the question mark that may follow a repetition. -/
def skipLazy (c : Cursor) : Cursor :=
  if c.rest.head? = some '?' then c.skip else c

/-- How often something is repeated, at least and at most; the cursor is at the brace. -/
def readCount (verbose : Bool) (c : Cursor) :
    Except Defect ((Nat × Option Nat) × Cursor) := do
  let start := c.place
  let c := c.advance verbose
  if c.rest.isEmpty then fail .countOpen (c.since start)
  let (least, c) := readDecimal verbose c
  if c.rest.isEmpty then fail .countOpen (c.since start)
  let (count, c) ←
    if c.rest.head? = some ',' then do
      let c := c.advance verbose
      if c.rest.isEmpty then fail .countOpen (c.since start)
      if c.rest.head? = some '\x7d' then
        pure ((← least, none), c)
      else do
        let least ← least
        let (most, c) := readDecimal verbose c
        pure ((least, some (← most)), c)
    else do
      let count ← least
      pure ((count, some count), c)
  if c.rest.head? != some '\x7d' then fail .countOpen (c.since start)
  let c := skipLazy (c.advance verbose)
  if count.2.any (· < count.1) then fail .countOrder (c.since start)
  .ok (count, c)

/-! ## Switches -/

/-- The changes that the letters of a group make, up to the character that ends them. `done` are
those so far, the last first, `negation` is where they were negated, and `dangling` is whether
nothing has followed that. Every step takes a letter. -/
def readChanges :
    Nat → List (Switch × Bool × Span) → Option Span → Bool → Cursor →
      Except Defect (Changes × Cursor)
  | 0, _, _, _, c => fail .flagOpen c.here
  | fuel + 1, done, negation, dangling, c =>
    match c.rest with
    | [] => fail .flagOpen c.here
    | ch :: _ =>
      if ch = ':' ∨ ch = ')' then
        match dangling, negation with
        | true, some span => fail .flagDangling span
        | _, _ => .ok (done.reverse.map fun (switch, on, _) => (switch, on), c)
      else do
        let after := c.skip
        if ch = '-' then
          match negation with
          | some earlier => failAgain .flagNegatedTwice c.next earlier
          | none =>
            if after.rest.isEmpty then fail .flagOpen after.here
            readChanges fuel done (some c.next) true after
        else
          match Switch.ofLetter? ch with
          | none => fail .flagUnknown c.next
          | some switch =>
            match done.find? (·.1 == switch) with
            | some (_, _, earlier) => failAgain .flagRepeated c.next earlier
            | none =>
              if after.rest.isEmpty then fail .flagOpen after.here
              readChanges fuel ((switch, negation.isNone, c.next) :: done) negation false after

/-! ## Names -/

/-- The names of groups, with the places of the names. -/
abbrev Names :=
  List (List Char × Span)

/-- Whether a character may stand in a name, at its start or after it. -/
def isNameChar (atStart : Bool) (c : Char) : Bool :=
  if atStart then c = '_' || Text.isLetter c
  else c = '_' || c = '.' || c = '[' || c = ']' || Text.isLetter c || Text.isNumber c

/-- The characters of a name, up to what closes it or the end of the text. -/
def readNameChars (atStart : Bool) (place : Place) :
    List Char → Except Defect (List Char × Cursor)
  | [] => .ok ([], ⟨[], place⟩)
  | c :: rest =>
    if c = '>' then
      .ok ([], ⟨c :: rest, place⟩)
    else if isNameChar atStart c then do
      let (more, after) ← readNameChars false (place.after c) rest
      .ok (c :: more, after)
    else
      fail .nameInvalid ⟨place, place.after c⟩

/-- The name of a group, which is added to the names so far; the cursor is after the bracket. -/
def readName (names : Names) (c : Cursor) : Except Defect (Names × Cursor) := do
  let (name, stop) ← readNameChars true c.place c.rest
  if stop.rest.isEmpty then fail .nameOpen stop.here
  if name.isEmpty then fail .nameEmpty c.here
  match names.find? (·.1 == name) with
  | some (_, earlier) => failAgain .nameRepeated (stop.since c.place) earlier
  | none => .ok ((name, stop.since c.place) :: names, stop.skip)

/-! ## Groups -/

/-- What a bracket opens: a group, or changes that hold up to the end of the present group. -/
inductive Opening where
  | changes (changes : Changes)
  | group (kind : GroupKind)

/-- The first of several texts that follows, skipped. -/
def skipAny? (c : Cursor) (texts : List String) : Option Cursor :=
  texts.findSome? fun text => c.skip? text.toList

/-- What a bracket opens; the cursor is at the bracket. -/
def readOpening (verbose : Bool) (names : Names) (c : Cursor) :
    Except Defect (Opening × Names × Cursor) := do
  let opened := c.next
  let c := c.advance verbose
  match skipAny? c ["?=", "?!", "?<=", "?<!"] with
  | some after => fail .lookAround (after.since opened.first)
  | none =>
    match skipAny? c ["?P<", "?<"], c.skip? ['?'] with
    | some name, _ => do
      let (names, after) ← readName names name
      .ok (.group .captured, names, after)
    | none, some letters => do
      if letters.rest.isEmpty then fail .groupOpen opened
      let (changes, stop) ← readChanges (letters.rest.length + 1) [] none false letters
      if stop.rest.head? = some ':' then
        .ok (.group (.plain changes), names, stop.skip)
      else if changes.isEmpty then
        fail .nothingToRepeat c.here
      else
        .ok (.changes changes, names, stop.skip)
    | none, none => .ok (.group .captured, names, c)

/-- What changes make of a switch. -/
def Changes.apply (changes : Changes) (switch : Switch) (now : Bool) : Bool :=
  ((changes.find? (·.1 == switch)).map (·.2)).getD now

/-- What has been read of a group: where its present branch starts, the parts of that branch, and
the branches before it with the place where the first of them starts; parts and branches with the
last first. -/
structure Body where
  verbose : Bool
  start : Place
  parts : List Tree
  branches : List Tree
  first : Place

namespace Body

/-- The start of a group. -/
def new (verbose : Bool) (place : Place) : Body :=
  ⟨verbose, place, [], [], place⟩

/-- The body with one more part. -/
def push (body : Body) (part : Tree) : Body :=
  { body with parts := part :: body.parts }

/-- The present branch, which stops at a place. -/
def branch (body : Body) (stop : Place) : Tree :=
  match body.parts with
  | [] => .empty ⟨body.start, stop⟩
  | [part] => part
  | parts => .sequence ⟨body.start, stop⟩ parts.reverse

/-- The body after the bar between two branches. -/
def next (body : Body) (bar : Cursor) : Body :=
  let after := bar.skip.place
  ⟨body.verbose, after, [], body.branch bar.place :: body.branches, body.first⟩

/-- The whole group, which stops at a place. -/
def tree (body : Body) (stop : Place) : Tree :=
  match body.branches with
  | [] => body.branch stop
  | branches => .choice ⟨body.first, stop⟩ (body.branch stop :: branches).reverse

/-- The last part, which is to be repeated, and the body without it. -/
def pop (body : Body) (here : Span) : Except Defect (Tree × Body) :=
  match body.parts with
  | [] | .changes _ _ :: _ => fail .nothingToRepeat here
  | part :: parts => .ok (part, { body with parts := parts })

/-- The body with a part that is repeated, up to the place after the repetition. -/
def pushRepeated (body : Body) (least : Nat) (most : Option Nat) (part : Tree) (stop : Place) :
    Body :=
  body.push (.repeated ⟨part.span.first, stop⟩ least most part)

end Body

/-- How often something is repeated by a sign. -/
def sign? (c : Char) : Option (Nat × Option Nat) :=
  match c with
  | '?' => some (0, some 1)
  | '*' => some (0, none)
  | '+' => some (1, none)
  | _ => none

/-- A character that is not special to groups, or an escape. -/
def readSimple (verbose : Bool) (c : Cursor) : Except Defect (Tree × Cursor) :=
  match c.rest with
  | '.' :: _ => .ok (.dot c.next, c.skip)
  | '^' :: _ => .ok (.assertion c.next .lineStart, c.skip)
  | '$' :: _ => .ok (.assertion c.next .lineEnd, c.skip)
  | _ => readUnit verbose c

/-- The rest of a group up to the bracket that closes it, and the cursor at that; or the rest of the
text, if no group was opened. Every step takes a character. -/
def readGroup : Nat → Option Span → Names → Body → Cursor → Except Defect (Tree × Names × Cursor)
  | 0, _, _, _, c => fail .groupUnopened c.here
  | fuel + 1, opened, names, body, c =>
    let c := c.settle body.verbose
    match c.rest with
    | [] =>
      match opened with
      | some span => fail .groupOpen span
      | none => .ok (body.tree c.place, names, c)
    | ')' :: _ =>
      match opened with
      | some _ => .ok (body.tree c.place, names, c)
      | none => fail .groupUnopened c.next
    | '|' :: _ => readGroup fuel opened names (body.next c) c.skip
    | '(' :: _ => do
      let (opening, names, after) ← readOpening body.verbose names c
      match opening with
      | .changes changes =>
        let body := body.push (.changes (after.since c.place) changes)
        let body := { body with verbose := changes.apply .verbose body.verbose }
        readGroup fuel opened names body after
      | .group kind =>
        let verbose :=
          match kind with
          | .captured => body.verbose
          | .plain changes => changes.apply .verbose body.verbose
        let (inner, names, stop) ←
          readGroup fuel (some c.next) names (.new verbose after.place) after
        let after := stop.skip
        readGroup fuel opened names (body.push (.group (after.since c.place) kind inner)) after
    | '[' :: _ => do
      let (tree, after) ← readClass body.verbose c
      readGroup fuel opened names (body.push tree) after
    | '\x7b' :: _ => do
      let (part, body) ← body.pop c.here
      let ((least, most), after) ← readCount body.verbose c
      readGroup fuel opened names (body.pushRepeated least most part after.place) after
    | ch :: _ =>
      match sign? ch with
      | some (least, most) => do
        let (part, body) ← body.pop c.here
        let after := skipLazy c.skip
        readGroup fuel opened names (body.pushRepeated least most part after.place) after
      | none => do
        let (tree, after) ← readSimple body.verbose c
        readGroup fuel opened names (body.push tree) after

/-- The pattern that a text writes. -/
def Tree.ofText (text : String) : Except Defect Tree := do
  let c := Cursor.ofText text.toList
  let (tree, _, _) ← readGroup (c.rest.length + 1) none [] (.new false c.place) c
  match tree.tooDeep? nestLimit with
  | some span => fail .nestedTooDeep span
  | none => .ok tree

end SqlFilter.Pattern
