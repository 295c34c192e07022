import SqlFilter.Pattern.Escape

set_option autoImplicit false

/-! # Character classes in brackets

A class lists characters, ranges of them, and other classes. Two classes in the same brackets can
be combined by an operation; all operations bind alike, from the left. A bracket that closes, or a
dash, stands for itself at the start of a class.
-/

namespace SqlFilter.Pattern

/-! ## Lists of items -/

/-- Items of a class that stand side by side, the last first, and where they stand. -/
structure Items where
  span : Span
  found : List ClassTree

namespace Items

/-- The items of a class that starts at a cursor. -/
def start (c : Cursor) : Items :=
  ⟨c.here, []⟩

/-- The items with one more. -/
def push (items : Items) (item : ClassTree) : Items :=
  let first := if items.found.isEmpty then item.span.first else items.span.first
  ⟨⟨first, item.span.stop⟩, item :: items.found⟩

/-- The items as one class. -/
def tree (items : Items) : ClassTree :=
  match items.found with
  | [] => .empty items.span
  | [item] => item
  | found => .union items.span found.reverse

end Items

/-- A class joined to what an operation has on its left. -/
def combined (pending : Option (ClassOp × ClassTree)) (right : ClassTree) : ClassTree :=
  match pending with
  | none => right
  | some (op, left) => .operation ⟨left.span.first, right.span.stop⟩ op left right

/-! ## Items -/

/-- What a tree stands for in a class. -/
def Tree.asItem : Tree → Except Defect ClassTree
  | .literal l => .ok (.literal l)
  | .short span name negated => .ok (.short span name negated)
  | .property span p => .ok (.property span p)
  | other => fail .classEscape other.span

/-- What a tree stands for at an end of a range. -/
def Tree.asBound : Tree → Except Defect Literal
  | .literal l => .ok l
  | other => fail .classBound other.span

/-- The next character as it stands, or the escape that it starts. -/
def readUnit (verbose : Bool) (c : Cursor) : Except Defect (Tree × Cursor) :=
  match c.rest with
  | [] => fail .escapeOpen c.here
  | '\\' :: _ => readEscape verbose c
  | ch :: _ => .ok (.literal ⟨ch, false, c.next⟩, c.skip)

/-- One item, or a range of characters, of the class that was opened at a span. -/
def readItem (verbose : Bool) (opened : Span) (c : Cursor) :
    Except Defect (ClassTree × Cursor) := do
  let (first, c) ← readUnit verbose c
  let c := c.settle verbose
  match c.rest with
  | [] => fail .classOpen opened
  | '-' :: _ =>
    if c.second? verbose = some ']' ∨ c.second? verbose = some '-' then
      .ok (← first.asItem, c)
    else
      let c := c.advance verbose
      if c.rest.isEmpty then
        fail .classOpen opened
      else
        let (last, c) ← readUnit verbose c
        let span : Span := ⟨first.span.first, last.span.stop⟩
        let low ← first.asBound
        let high ← last.asBound
        if high.char < low.char then fail .classOrder span else .ok (.range span low high, c)
  | _ => .ok (← first.asItem, c)

/-- A class by its name, if that is what a bracket inside a class opens. -/
def readNamed? (c : Cursor) : Option (ClassTree × Cursor) := do
  let inner ← c.skip? ['[', ':']
  let negated := inner.rest.head? = some '^'
  let (name, stop) := (if negated then inner.skip else inner).collect false (· != ':')
  let after ← stop.skip? [':', ']']
  let name ← NamedClass.ofName? (String.ofList name)
  some (.named (after.since c.place) name negated, after)

/-! ## Classes -/

/-- The head of a class: whether it is negated, what stands for itself at its start, and the cursor
after that. -/
structure ClassHead where
  opened : Span
  negated : Bool
  items : Items
  after : Cursor

/-- Dashes at the start of the class that was opened at a place; `fuel` bounds their number. -/
def readDashes (verbose : Bool) (start : Place) :
    Nat → Items → Cursor → Except Defect (Items × Cursor)
  | 0, items, c => .ok (items, c)
  | fuel + 1, items, c =>
    if c.rest.head? = some '-' then
      let after := c.advance verbose
      if after.rest.isEmpty then
        fail .classOpen ⟨start, start⟩
      else
        readDashes verbose start fuel (items.push (.literal ⟨'-', false, c.next⟩)) after
    else
      .ok (items, c)

/-- The head of a class; the cursor is at the bracket. -/
def readHead (verbose : Bool) (c : Cursor) : Except Defect ClassHead := do
  let start := c.place
  let c := c.advance verbose
  if c.rest.isEmpty then fail .classOpen (c.since start)
  let negated := c.rest.head? = some '^'
  let c := if negated then c.advance verbose else c
  if c.rest.isEmpty then fail .classOpen (c.since start)
  let (items, c) ← readDashes verbose start c.rest.length (.start c) c
  if items.found.isEmpty ∧ c.rest.head? = some ']' then
    let after := c.advance verbose
    if after.rest.isEmpty then fail .classOpen (after.since start)
    .ok ⟨after.since start, negated, items.push (.literal ⟨']', false, c.next⟩), after⟩
  else
    .ok ⟨c.since start, negated, items, c⟩

/-- The operation that a text starts with. -/
def operation? : List Char → Option ClassOp
  | '&' :: '&' :: _ => some .intersection
  | '-' :: '-' :: _ => some .difference
  | '~' :: '~' :: _ => some .symmetricDifference
  | _ => none

/-- The rest of the class that was opened at a span, up to its bracket, and the cursor after that.
Every step takes a character, so that `fuel` need not exceed their number. -/
def readBody (verbose : Bool) :
    Nat → Span → Option (ClassOp × ClassTree) → Items → Cursor → Except Defect (ClassTree × Cursor)
  | 0, opened, _, _, _ => fail .classOpen opened
  | fuel + 1, opened, pending, items, c =>
    let c := c.settle verbose
    match c.rest with
    | [] => fail .classOpen opened
    | '[' :: _ =>
      match readNamed? c with
      | some (item, after) => readBody verbose fuel opened pending (items.push item) after
      | none => do
        let head ← readHead verbose c
        let (inner, after) ← readBody verbose fuel head.opened none head.items head.after
        let item : ClassTree := .bracketed (after.since c.place) head.negated inner
        readBody verbose fuel opened pending (items.push item) after
    | ']' :: _ => .ok (combined pending items.tree, c.skip)
    | text =>
      match operation? text with
      | some op =>
        let after := c.skip.skip
        readBody verbose fuel opened (some (op, combined pending items.tree)) (.start after) after
      | none => do
        let (item, after) ← readItem verbose opened c
        readBody verbose fuel opened pending (items.push item) after

/-- A class; the cursor is at its bracket. -/
def readClass (verbose : Bool) (c : Cursor) : Except Defect (Tree × Cursor) := do
  let head ← readHead verbose c
  let (inner, after) ←
    readBody verbose (c.rest.length + 1) head.opened none head.items head.after
  .ok (.bracketed (after.since c.place) head.negated inner, after)

end SqlFilter.Pattern
