set_option autoImplicit false

/-! # Sets of characters

A `CharSet` is a list of ranges of code points that are in order and apart: between two of them
there is at least one code point (`Apart`). A range is put in by `insertRange`, which joins the
ranges that meet; what two lists have in common (`meet`) and what lies between ranges (`gaps`) is
apart again. A set also remembers whether it is known to be closed under a change of case.
-/

namespace SqlFilter.Pattern

/-! ## Ranges -/

/-- A range of code points, both ends included. -/
abbrev Range :=
  Nat × Nat

/-- No range is empty, the ranges are in order, and a code point lies between any two of them. -/
structure Apart (ranges : List Range) : Prop where
  le : ∀ r ∈ ranges, r.1 ≤ r.2
  between : ranges.Pairwise fun r s => r.2 + 1 < s.1

/-- The ranges with one more. Ranges that meet become one. -/
def insertRange (r : Range) : List Range → List Range
  | [] => [r]
  | s :: rest =>
    if r.2 + 1 < s.1 then r :: s :: rest
    else if s.2 + 1 < r.1 then s :: insertRange r rest
    else insertRange (min r.1 s.1, max r.2 s.2) rest

/-- What two ranges have in common, if that is anything. -/
def common? (r s : Range) : Option Range :=
  if max r.1 s.1 ≤ min r.2 s.2 then some (max r.1 s.1, min r.2 s.2) else none

/-- What two lists of ranges have in common. -/
def meet (rs ss : List Range) : List Range :=
  rs.flatMap fun r => ss.filterMap (common? r)

/-- The code points from one up to a last one that are in none of the ranges. -/
def gaps (first last : Nat) : List Range → List Range
  | [] => if first ≤ last then [(first, last)] else []
  | r :: rest =>
    let more := gaps (r.2 + 1) last rest
    if first < r.1 then (first, r.1 - 1) :: more else more

/-! ## Ranges stay apart -/

theorem apart_nil : Apart [] :=
  ⟨fun _ h => absurd h List.not_mem_nil, .nil⟩

theorem apart_cons {r : Range} {rest : List Range} :
    Apart (r :: rest) ↔ r.1 ≤ r.2 ∧ (∀ s ∈ rest, r.2 + 1 < s.1) ∧ Apart rest := by
  constructor
  · rintro ⟨hle, hbetween⟩
    obtain ⟨hr, hrest⟩ := List.forall_mem_cons.mp hle
    obtain ⟨hbelow, happart⟩ := List.pairwise_cons.mp hbetween
    exact ⟨hr, hbelow, hrest, happart⟩
  · rintro ⟨hr, hbelow, hle, hbetween⟩
    exact ⟨List.forall_mem_cons.mpr ⟨hr, hle⟩, List.pairwise_cons.mpr ⟨hbelow, hbetween⟩⟩

/-- What is below a range and below all ranges is below them also when the range is put in. -/
theorem lt_of_mem_insertRange {n : Nat} {r : Range} {ranges : List Range} (h : n < r.1)
    (hs : ∀ s ∈ ranges, n < s.1) : ∀ t ∈ insertRange r ranges, n < t.1 := by
  induction ranges generalizing r with
  | nil => simpa [insertRange] using h
  | cons s rest ih =>
      obtain ⟨hfirst, hrest⟩ := List.forall_mem_cons.mp hs
      rw [insertRange]
      split
      · exact List.forall_mem_cons.mpr ⟨h, hs⟩
      · split
        · exact List.forall_mem_cons.mpr ⟨hfirst, ih h hrest⟩
        · exact ih (Nat.lt_min.mpr ⟨h, hfirst⟩) hrest

theorem Apart.insertRange {r : Range} {ranges : List Range} (h : Apart ranges) (hr : r.1 ≤ r.2) :
    Apart (insertRange r ranges) := by
  induction ranges generalizing r with
  | nil => exact apart_cons.mpr ⟨hr, fun _ hs => absurd hs List.not_mem_nil, apart_nil⟩
  | cons s rest ih =>
      obtain ⟨hs, hbelow, hrest⟩ := apart_cons.mp h
      rw [Pattern.insertRange]
      split
      · next hlt =>
          refine apart_cons.mpr ⟨hr, List.forall_mem_cons.mpr ⟨hlt, fun t ht => ?_⟩, h⟩
          have hlater := hbelow t ht
          omega
      · split
        · next hlt =>
            exact apart_cons.mpr ⟨hs, lt_of_mem_insertRange hlt hbelow, ih hrest hr⟩
        · -- the two ranges meet, and the whole of them goes on
          exact ih hrest (by simp only; omega)

/-- What two ranges have in common is a range inside both. -/
theorem le_of_common? {r s t : Range} (h : common? r s = some t) :
    t.1 ≤ t.2 ∧ (r.1 ≤ t.1 ∧ t.2 ≤ r.2) ∧ s.1 ≤ t.1 ∧ t.2 ≤ s.2 := by
  rw [common?] at h
  split at h
  · next hle =>
      obtain rfl := Option.some.inj h
      exact ⟨hle, ⟨Nat.le_max_left _ _, Nat.min_le_left _ _⟩, Nat.le_max_right _ _,
        Nat.min_le_right _ _⟩
  · cases h

theorem Apart.meet {rs ss : List Range} (hr : Apart rs) (hs : Apart ss) : Apart (meet rs ss) := by
  constructor
  · intro t ht
    obtain ⟨r, -, ht⟩ := List.mem_flatMap.mp ht
    obtain ⟨s, -, ht⟩ := List.mem_filterMap.mp ht
    exact (le_of_common? ht).1
  · rw [Pattern.meet, List.pairwise_flatMap]
    constructor
    · -- inside one range of the first list, what is left lies in ranges of the second list
      intro r _
      refine List.pairwise_filterMap.mpr (hs.between.imp fun hlt t ht t' ht' => ?_)
      have hinside := (le_of_common? ht).2.2
      have hinside' := (le_of_common? ht').2.2
      omega
    · refine hr.between.imp fun hlt t ht t' ht' => ?_
      obtain ⟨s, -, ht⟩ := List.mem_filterMap.mp ht
      obtain ⟨s', -, ht'⟩ := List.mem_filterMap.mp ht'
      have hinside := (le_of_common? ht).2.1
      have hinside' := (le_of_common? ht').2.1
      omega

/-- The gaps begin where they may, if the ranges do not begin earlier. -/
theorem le_of_mem_gaps {first last : Nat} {ranges : List Range} (h : Apart ranges)
    (hfirst : ∀ r ∈ ranges, first ≤ r.1) : ∀ t ∈ gaps first last ranges, first ≤ t.1 := by
  induction ranges generalizing first with
  | nil =>
      intro t ht
      rw [gaps] at ht
      split at ht
      · obtain rfl := List.mem_singleton.mp ht
        exact Nat.le_refl first
      · exact absurd ht List.not_mem_nil
  | cons r rest ih =>
      obtain ⟨hr, hbelow, hrest⟩ := apart_cons.mp h
      have hbegin := hfirst r List.mem_cons_self
      have hlater : ∀ t ∈ gaps (r.2 + 1) last rest, first ≤ t.1 := by
        intro t ht
        have hle := ih hrest (fun s hs => Nat.le_of_lt (hbelow s hs)) t ht
        omega
      rw [gaps]
      split
      · exact List.forall_mem_cons.mpr ⟨Nat.le_refl _, hlater⟩
      · exact hlater

theorem Apart.gaps {ranges : List Range} (h : Apart ranges) (first last : Nat) :
    Apart (gaps first last ranges) := by
  induction ranges generalizing first with
  | nil =>
      rw [Pattern.gaps]
      split
      · next hle => exact apart_cons.mpr ⟨hle, fun _ hs => absurd hs List.not_mem_nil, apart_nil⟩
      · exact apart_nil
  | cons r rest ih =>
      obtain ⟨hr, hbelow, hrest⟩ := apart_cons.mp h
      rw [Pattern.gaps]
      split
      · refine apart_cons.mpr ⟨by simp only; omega, fun t ht => ?_, ih hrest _⟩
        have hle := le_of_mem_gaps hrest (fun s hs => Nat.le_of_lt (hbelow s hs)) t ht
        simp only
        omega
      · exact ih hrest _

/-! ## Sets -/

/-- A set of characters by the ranges of their code points. -/
structure CharSet where
  ranges : List Range
  /-- whether the set is known to hold every letter in both cases or in none -/
  closed : Bool
  apart : Apart ranges
  deriving DecidableEq, Repr

namespace CharSet

/-- The set without characters. -/
def empty : CharSet :=
  ⟨[], true, apart_nil⟩

/-- A set with the characters from one code point to another. -/
def insert (set : CharSet) (first last : Nat) : CharSet where
  ranges := insertRange (min first last, max first last) set.ranges
  closed := false
  apart := set.apart.insertRange (Nat.le_trans (Nat.min_le_left first last) (Nat.le_max_left _ _))

/-- A set with the characters of some ranges. -/
def insertAll (set : CharSet) (ranges : List Range) : CharSet :=
  ranges.foldl (fun found r => found.insert r.1 r.2) set

/-- The set with the characters of some ranges. -/
def ofRanges (ranges : List Range) : CharSet :=
  { empty.insertAll ranges with closed := ranges.isEmpty }

/-- The set with one character. -/
def single (c : Char) : CharSet :=
  ofRanges [(c.toNat, c.toNat)]

/-- Whether a character is in a set. -/
def contains (set : CharSet) (c : Char) : Bool :=
  set.ranges.any fun (first, last) => first ≤ c.toNat && c.toNat ≤ last

/-- Whether a set has no characters beyond ASCII. -/
def isAscii (set : CharSet) : Bool :=
  set.ranges.all fun (_, last) => last ≤ 0x7F

/-- The characters that are in one of two sets. -/
def union (a b : CharSet) : CharSet :=
  if b.ranges = [] ∨ a.ranges = b.ranges then a
  else { a.insertAll b.ranges with closed := a.closed && b.closed }

/-- The characters that are in both of two sets. -/
def intersect (a b : CharSet) : CharSet :=
  if a.ranges = [] then a
  else if b.ranges = [] then empty
  else ⟨meet a.ranges b.ranges, a.closed && b.closed, a.apart.meet b.apart⟩

/-- The characters up to a last one that are not in a set. -/
def negate (last : Nat) (set : CharSet) : CharSet :=
  ⟨gaps 0 last set.ranges, set.closed || set.ranges = [], set.apart.gaps 0 last⟩

/-- The characters that are in the first of two sets only. -/
def difference (last : Nat) (a b : CharSet) : CharSet :=
  if a.ranges = [] ∨ b.ranges = [] then a
  else
    ⟨meet a.ranges (gaps 0 last b.ranges), a.closed && b.closed,
      a.apart.meet (b.apart.gaps 0 last)⟩

/-- The characters that are in one of two sets only. -/
def symmetricDifference (last : Nat) (a b : CharSet) : CharSet :=
  (a.union b).difference last (a.intersect b)

/-- A set with the other case of its ASCII letters. -/
def withBothCases (set : CharSet) : CharSet :=
  let upper := (meet set.ranges [(0x61, 0x7A)]).map fun (first, last) => (first - 32, last - 32)
  let lower := (meet set.ranges [(0x41, 0x5A)]).map fun (first, last) => (first + 32, last + 32)
  { set.insertAll (upper ++ lower) with closed := true }

end CharSet

end SqlFilter.Pattern
