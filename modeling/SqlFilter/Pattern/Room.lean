import SqlFilter.Pattern.Basic

set_option autoImplicit false

/-! # The room that a pattern takes

A pattern is refused if the automaton for it would take too much room. The automaton works on the
bytes of a text. `room` counts its states and transitions, in bytes of memory, for an automaton that
reads a text forwards or backwards; what a pattern repeats is counted as often as it is repeated.
-/

namespace SqlFilter.Pattern

/-- The room for a state. -/
def stateRoom : Nat :=
  32

/-- The room for a transition of a state that has several. -/
def transitionRoom : Nat :=
  8

/-- The room for a way out of a fork. -/
def wayRoom : Nat :=
  4

/-! ## Characters as bytes -/

/-- The ranges of the bytes of characters between two of equal length, when the bytes vary
independently. -/
def byteRanges (first last : Nat) : List Range :=
  let bytes (code : Nat) := (String.utf8EncodeChar (Char.ofNat code)).map UInt8.toNat
  (bytes first).zip (bytes last)

/-- The sequences of byte ranges for a range of code points. A range is cut at the code points that
are no characters, where the number of bytes changes, and where a byte is not free to vary; `fuel`
bounds the cuts that lie within each other. -/
def byteSequences : Nat → Nat → Nat → List (List Range)
  | 0, _, _ => []
  | fuel + 1, first, last =>
    if last < first then
      []
    else if first < 0xE000 ∧ 0xD7FF < last then
      byteSequences fuel first 0xD7FF ++ byteSequences fuel 0xE000 last
    else
      match [0x7F, 0x7FF, 0xFFFF].find? fun top => first ≤ top && top < last with
      | some top => byteSequences fuel first top ++ byteSequences fuel (top + 1) last
      | none =>
        let cuts := [2 ^ 6, 2 ^ 12, 2 ^ 18].filterMap fun block =>
          if last ≤ 0x7F ∨ first / block = last / block then none
          else if first % block ≠ 0 then some ((first / block + 1) * block)
          else if last % block ≠ block - 1 then some (last / block * block)
          else none
        match cuts with
        | cut :: _ => byteSequences fuel first (cut - 1) ++ byteSequences fuel cut last
        | [] => [byteRanges first last]

/-- The sequences of byte ranges for a set. -/
def CharSet.byteSequences (set : CharSet) : List (List Range) :=
  set.ranges.flatMap fun (first, last) => Pattern.byteSequences 32 first last

/-- The ends of sequences, grouped by what they start with. -/
def ends (sequences : List (List Range)) : List (List (List Range)) :=
  let heads := (sequences.filterMap List.head?).eraseDups
  heads.map fun head => (sequences.filter (·.head? == some head)).map List.tail

/-- The states for the ends of sequences of bounded length: ends that are alike share a state. -/
def stateEnds : Nat → List (List Range) → List (List (List Range))
  | 0, _ => []
  | length + 1, sequences =>
    if sequences.all List.isEmpty then []
    else sequences :: (ends sequences).flatMap (stateEnds length)

/-- The room for a set of characters beyond ASCII, forwards. -/
def forwardRoom (sequences : List (List Range)) : Nat :=
  let states := (stateEnds 4 sequences).eraseDups
  states.foldl (fun room state => room + stateRoom + transitionRoom * (ends state).length) stateRoom

/-- The room for a set of characters beyond ASCII, backwards. -/
def backwardRoom (sequences : List (List Range)) : Nat :=
  let starts := (sequences.flatMap fun s => s.mapIdx fun index _ => s.take (index + 1)).eraseDups
  2 * stateRoom + wayRoom * sequences.length + stateRoom * starts.length

/-- The room for a set of characters. -/
def CharSet.room (backwards : Bool) (set : CharSet) : Nat :=
  match set.ranges with
  | [(first, last)] =>
    if first = last then stateRoom * (Char.ofNat first).utf8Size else ranged
  | _ => ranged
where
  /-- The room for a set with several characters, or with none. -/
  ranged : Nat :=
    if set.isAscii then 2 * stateRoom + transitionRoom * set.ranges.length
    else if backwards then backwardRoom set.byteSequences
    else forwardRoom set.byteSequences

/-! ## Patterns -/

mutual

/-- The room for a pattern. -/
def room (backwards : Bool) : Pattern Atom → Nat
  | .empty => stateRoom
  | .atom (.chars set) => set.room backwards
  | .atom (.look _) => stateRoom
  | .sequence p q => p.room backwards + q.room backwards
  | .choice p q => 2 * stateRoom + p.branchRoom backwards + q.branchRoom backwards
  | .group p => p.room backwards + if backwards then 0 else 2 * stateRoom
  | .times least most p =>
    let fork := stateRoom + 2 * wayRoom
    let inner := p.room backwards
    match least, most with
    | 0, some 1 => fork + inner + stateRoom
    | 0, none =>
      if p.least?.any (0 < ·) then fork + inner else 2 * fork + inner + stateRoom
    | least, none => least * inner + fork
    | least, some most =>
      if least = most then least * inner
      else
        (if least = 0 then stateRoom else least * inner) + stateRoom +
          (most - least) * (fork + inner)

/-- The room for the branches of a pattern. -/
def branchRoom (backwards : Bool) : Pattern Atom → Nat
  | .choice p q => p.branchRoom backwards + q.branchRoom backwards
  | p => p.room backwards + wayRoom

end

/-- The room for what comes before every pattern, which is any text, and after it. -/
def frameRoom (backwards : Bool) : Nat :=
  3 * stateRoom + 2 * wayRoom + transitionRoom + stateRoom + if backwards then 0 else 2 * stateRoom

/-- The most room that there is. -/
def roomLimit : Nat :=
  10 * 1024 * 1024

/-- Whether the automaton for a pattern would take too much room. -/
def isTooLarge (backwards : Bool) (p : Pattern Atom) : Bool :=
  roomLimit < frameRoom backwards + p.room backwards

end SqlFilter.Pattern
