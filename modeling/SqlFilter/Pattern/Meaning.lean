import SqlFilter.Pattern.Basic
import SqlFilter.Pattern.Escape

set_option autoImplicit false

/-! # What a pattern means

`Tree.meaning` turns a pattern as it is written into atoms. The switches decide what a part means,
and a part can change them for what follows it in the same group. While the switch `unicode` is on,
the classes with an escape of one letter, the properties of characters and both cases of a letter
would need tables that are not there; while it is off, sets hold single bytes, and a pattern may not
match a byte that is only a piece of a character.
-/

namespace SqlFilter.Pattern

/-! ## Switches -/

/-- The switches that matter to what a pattern matches. -/
structure Mode where
  caseless : Bool
  multiLine : Bool
  dotAll : Bool
  unicode : Bool
  carriageReturns : Bool
  deriving DecidableEq, Repr

namespace Mode

/-- The switches at the start of a pattern. -/
def start : Mode :=
  ⟨false, false, false, true, false⟩

/-- The switches after one change. -/
def change (mode : Mode) : Switch × Bool → Mode
  | (.caseless, on) => { mode with caseless := on }
  | (.multiLine, on) => { mode with multiLine := on }
  | (.dotAll, on) => { mode with dotAll := on }
  | (.unicode, on) => { mode with unicode := on }
  | (.carriageReturns, on) => { mode with carriageReturns := on }
  | (.swapGreed, _) | (.verbose, _) => mode

/-- The switches after changes. -/
def after (mode : Mode) (changes : Changes) : Mode :=
  changes.foldl change mode

/-- The last code point of a set: that of the last character or of the last byte. -/
def last (mode : Mode) : Nat :=
  if mode.unicode then 0x10FFFF else 0xFF

end Mode

/-! ## Classes -/

/-- The characters of a class that is written by its name. -/
def NamedClass.set : NamedClass → CharSet
  | .alnum => .ofRanges [(0x30, 0x39), (0x41, 0x5A), (0x61, 0x7A)]
  | .alpha => .ofRanges [(0x41, 0x5A), (0x61, 0x7A)]
  | .ascii => .ofRanges [(0x0, 0x7F)]
  | .blank => .ofRanges [(0x9, 0x9), (0x20, 0x20)]
  | .cntrl => .ofRanges [(0x0, 0x1F), (0x7F, 0x7F)]
  | .digit => .ofRanges [(0x30, 0x39)]
  | .graph => .ofRanges [(0x21, 0x7E)]
  | .lower => .ofRanges [(0x61, 0x7A)]
  | .print => .ofRanges [(0x20, 0x7E)]
  | .punct => .ofRanges [(0x21, 0x2F), (0x3A, 0x40), (0x5B, 0x60), (0x7B, 0x7E)]
  | .space => .ofRanges [(0x9, 0xD), (0x20, 0x20)]
  | .upper => .ofRanges [(0x41, 0x5A)]
  | .word => .ofRanges [(0x30, 0x39), (0x41, 0x5A), (0x5F, 0x5F), (0x61, 0x7A)]
  | .xdigit => .ofRanges [(0x30, 0x39), (0x41, 0x46), (0x61, 0x66)]

/-- The ASCII characters of a class with an escape of one letter. -/
def ShortClass.set : ShortClass → CharSet
  | .digit => NamedClass.digit.set
  | .space => NamedClass.space.set
  | .word => NamedClass.word.set

/-- A set with both cases of its letters, if they do not matter. -/
def Mode.fold (mode : Mode) (span : Span) (set : CharSet) : Except Defect CharSet :=
  if !mode.caseless then .ok set
  else if !mode.unicode then .ok set.withBothCases
  else if set.closed then .ok set
  else fail .caseNotAvailable span

/-- A set that is to match whole characters. -/
def Mode.whole (mode : Mode) (span : Span) (set : CharSet) : Except Defect CharSet :=
  if mode.unicode ∨ set.isAscii then .ok set else fail .notUtf8 span

/-- A set with both cases of its letters if they do not matter, and negated if it is to be. -/
def Mode.finish (mode : Mode) (span : Span) (negated : Bool) (set : CharSet) :
    Except Defect CharSet := do
  let set ← mode.fold span set
  mode.whole span (if negated then set.negate mode.last else set)

/-- The class with an escape of one letter. -/
def Mode.short (mode : Mode) (span : Span) (name : ShortClass) (negated : Bool) :
    Except Defect CharSet :=
  if mode.unicode then fail .shortClassNotFound span
  else mode.whole span (if negated then name.set.negate mode.last else name.set)

/-- A name without the characters and the first word that do not count. -/
def normalName (name : String) : String :=
  let text := name.toList
  let startsWithIs := (text.take 2).map Char.toLower = ['i', 's']
  let body := ((if startsWithIs then text.drop 2 else text).filter fun c =>
    c.toNat < 0x80 && c != ' ' && c != '_' && c != '-').map Char.toLower
  if startsWithIs ∧ body = ['c'] then "isc" else String.ofList body

/-- The fault of asking for a property of characters: there is no table of any, but three names are
those of values and not of properties. -/
def Property.fault : Property → Fault
  | .valued => .propertyNotFound
  | .named name =>
    if ["cf", "sc", "lc"].contains (normalName name) then .propertyValueNotFound
    else .propertyNotFound

/-- The characters with a property. -/
def Mode.property (mode : Mode) (span : Span) (p : Property) : Except Defect CharSet :=
  if mode.unicode then fail p.fault span else fail .notAscii span

/-- The character that a literal stands for. -/
def Mode.scalar (mode : Mode) (l : Literal) : Except Defect Char :=
  if !mode.unicode && l.isByte && 0x80 ≤ l.char.toNat then fail .notUtf8 l.span else .ok l.char

/-- The code point of a literal in a class. -/
def Mode.code (mode : Mode) (l : Literal) : Except Defect Nat := do
  let c ← mode.scalar l
  if !mode.unicode && 0x80 ≤ c.toNat then fail .notAscii l.span else .ok c.toNat

/-- The set that an operation makes of two. -/
def ClassOp.apply (op : ClassOp) (last : Nat) (left right : CharSet) : CharSet :=
  match op with
  | .intersection => left.intersect right
  | .difference => left.difference last right
  | .symmetricDifference => left.symmetricDifference last right

mutual

/-- A set with the characters of a class. -/
def ClassTree.addTo (mode : Mode) (found : CharSet) : ClassTree → Except Defect CharSet
  | .empty _ => .ok found
  | .literal l => do
    let code ← mode.code l
    .ok (found.insert code code)
  | .range _ first last => do
    let low ← mode.code first
    let high ← mode.code last
    .ok (found.insert low high)
  | .named span name negated => do
    let set ← mode.finish span negated name.set
    .ok (found.union set)
  | .short span name negated => do
    let set ← mode.short span name negated
    .ok (found.union set)
  | .property span p => do
    let set ← mode.property span p
    .ok (found.union set)
  | .bracketed span negated inner => do
    let set ← inner.addTo mode .empty
    let set ← mode.finish span negated set
    .ok (found.union set)
  | .union _ items => ClassTree.addAllTo mode found items
  | .operation _ op left right => do
    let low ← left.addTo mode .empty
    let high ← right.addTo mode .empty
    let high ← mode.fold right.span high
    let low ← mode.fold left.span low
    .ok (found.union (op.apply mode.last low high))

/-- A set with the characters of several classes. -/
def ClassTree.addAllTo (mode : Mode) (found : CharSet) : List ClassTree → Except Defect CharSet
  | [] => .ok found
  | item :: rest => do
    let found ← item.addTo mode found
    ClassTree.addAllTo mode found rest

end

/-! ## Atoms -/

/-- The characters that a dot does not stand for. -/
def Mode.breaks (mode : Mode) : CharSet :=
  if mode.dotAll then .empty
  else if mode.carriageReturns then .ofRanges [(0xA, 0xA), (0xD, 0xD)]
  else .single '\n'

/-- What a dot stands for. -/
def Mode.dot (mode : Mode) (span : Span) : Except Defect CharSet :=
  if mode.unicode then .ok (mode.breaks.negate mode.last) else fail .notUtf8 span

/-- What an assertion asks for. -/
def Mode.look (mode : Mode) : Assertion → Look
  | .textStart => .textStart
  | .textEnd => .textEnd
  | .lineStart =>
    if !mode.multiLine then .textStart
    else if mode.carriageReturns then .anyLineStart
    else .lineStart
  | .lineEnd =>
    if !mode.multiLine then .textEnd
    else if mode.carriageReturns then .anyLineEnd
    else .lineEnd
  | .word edge => .word edge mode.unicode

/-- What a literal stands for. -/
def Mode.literal (mode : Mode) (l : Literal) : Except Defect CharSet := do
  let c ← mode.scalar l
  if !mode.caseless then .ok (.single c)
  else if mode.unicode then fail .caseNotAvailable l.span
  else .ok (CharSet.single c).withBothCases

/-! ## Patterns -/

mutual

/-- The meaning of a pattern, and the switches after it. -/
def Tree.meaningIn (mode : Mode) : Tree → Except Defect (Pattern Atom × Mode)
  | .empty _ => .ok (.empty, mode)
  | .changes _ list => .ok (.empty, mode.after list)
  | .literal l => do
    let set ← mode.literal l
    .ok (.atom (.chars set), mode)
  | .dot span => do
    let set ← mode.dot span
    .ok (.atom (.chars set), mode)
  | .assertion _ a => .ok (.atom (.look (mode.look a)), mode)
  | .short span name negated => do
    let set ← mode.short span name negated
    .ok (.atom (.chars set), mode)
  | .property span p => do
    let set ← mode.property span p
    .ok (.atom (.chars set), mode)
  | .bracketed span negated inner => do
    let set ← inner.addTo mode .empty
    let set ← mode.finish span negated set
    .ok (.atom (.chars set), mode)
  | .repeated _ least most inner => do
    let (p, mode) ← inner.meaningIn mode
    .ok (Pattern.repeated least most p, mode)
  | .group _ .captured inner => do
    let (p, _) ← inner.meaningIn mode
    .ok (.group p, mode)
  | .group _ (.plain list) inner => do
    let (p, _) ← inner.meaningIn (mode.after list)
    .ok (p, mode)
  | .choice _ branches => do
    let (ps, mode) ← Tree.meaningsIn mode branches
    .ok (Pattern.oneOf ps, mode)
  | .sequence _ parts => do
    let (ps, mode) ← Tree.meaningsIn mode parts
    .ok (Pattern.inSequence ps, mode)

/-- The meanings of patterns that follow each other, and the switches after them. -/
def Tree.meaningsIn (mode : Mode) : List Tree → Except Defect (List (Pattern Atom) × Mode)
  | [] => .ok ([], mode)
  | tree :: rest => do
    let (p, mode) ← tree.meaningIn mode
    let (ps, mode) ← Tree.meaningsIn mode rest
    .ok (p :: ps, mode)

end

/-- The meaning of a pattern. -/
def Tree.meaning (tree : Tree) : Except Defect (Pattern Atom) := do
  let (p, _) ← tree.meaningIn .start
  .ok p

end SqlFilter.Pattern
