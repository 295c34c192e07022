import SqlFilter.Json.Reader
import SqlFilter.Proofs.Query.Scalars
import SqlFilter.Proofs.Json.Nesting

set_option autoImplicit false

/-! # What the reader refuses in a written tree

The text of a tree is refused for two reasons only: it nests too deep, or one of its constants is not
read. A double that is not finite stands there as `null`, and the text of a finite one could be out
of range for the reader. `Expr.flaw?` finds on the tree the flaw that a reader meets first. There is
none exactly if no constant has one and the nesting stays within the limit
(`Expr.flaw?_eq_none_iff`), and a flaw is a nesting beyond the limit or the flaw of a constant
(`Expr.isFlaw_of_flaw?`). If the doubles read back, the only constants with a flaw are the doubles
that are not finite (`Expr.forall_flaw?_eq_none_iff`).
-/

namespace SqlFilter

open Json (Error nestingLimit)

/-! ## The flaws of constants -/

/-- Every one of some doubles is finite. -/
def AllFinite (xs : List Binary64) : Prop :=
  ∀ x ∈ xs, x.isFinite = true

/-- Every one of some doubles reads back from its text, if it has one. -/
def AllReadBack (xs : List Binary64) : Prop :=
  ∀ x ∈ xs, x.ReadsBack

namespace Scalar

/-- A double that is not finite is no constant, and the text of a finite one has to be in range. -/
def flaw? : Scalar → Option Error
  | .float x =>
    if x.isFinite then if x.reread?.isSome then none else some (.malformed .numberRange)
    else some (.misfit .scalar)
  | .bool _ | .int _ | .uint _ | .string _ => none

theorem flaw?_cases (s : Scalar) {error : Error} (h : s.flaw? = some error) :
    error = .misfit .scalar ∨ error = .malformed .numberRange := by
  cases s with
  | float x =>
      rw [flaw?] at h
      split at h
      · split at h
        · cases h
        · exact .inr (Option.some.inj h).symm
      · exact .inl (Option.some.inj h).symm
  | bool value => cases h
  | int value => cases h
  | uint value => cases h
  | string value => cases h

/-- A double that reads back has no flaw exactly if it is finite. -/
theorem flaw?_float_eq_none_iff {x : Binary64} (h : x.ReadsBack) :
    (Scalar.float x).flaw? = none ↔ x.isFinite = true := by
  rw [flaw?]
  split
  · next hfinite =>
      rw [Binary64.readsBack_iff_reread?.mp h hfinite]
      exact iff_of_true rfl hfinite
  · next hinfinite => exact iff_of_false (by simp) hinfinite

end Scalar

/-- If its doubles read back, the constants of a tree have no flaw exactly if the doubles are
finite. -/
theorem Expr.forall_flaw?_eq_none_iff {e : Expr} (h : AllReadBack e.floats) :
    (∀ s ∈ e.scalars, s.flaw? = none) ↔ AllFinite e.floats := by
  constructor
  · intro hnone x hx
    exact (Scalar.flaw?_float_eq_none_iff (h x hx)).mp (hnone _ (Expr.mem_floats.mp hx))
  · intro hfinite s hs
    cases s with
    | float x =>
        have hx : x ∈ e.floats := Expr.mem_floats.mpr hs
        exact (Scalar.flaw?_float_eq_none_iff (h x hx)).mpr (hfinite x hx)
    | bool value => rfl
    | int value => rfl
    | uint value => rfl
    | string value => rfl

/-! ## The first flaw -/

namespace Json

/-- One more bracket or brace inside `depth` others may be one too many. -/
def tooDeep? (depth : Nat) : Option Error :=
  if depth < nestingLimit then none else some (.malformed .nesting)

theorem tooDeep?_eq_none_iff {depth : Nat} : tooDeep? depth = none ↔ depth < nestingLimit := by
  rw [tooDeep?]
  split
  · next h => exact iff_of_true rfl h
  · next h => exact iff_of_false (by simp) h

theorem tooDeep?_eq_some {depth : Nat} {error : Error} (h : tooDeep? depth = some error) :
    error = .malformed .nesting := by
  rw [tooDeep?] at h
  split at h
  · exact absurd h (by simp)
  · exact (Option.some.inj h).symm

theorem le_of_tooDeep?_eq_some {depth : Nat} {error : Error} (h : tooDeep? depth = some error) :
    nestingLimit ≤ depth := by
  refine Nat.not_lt.mp fun hlt => ?_
  rw [tooDeep?_eq_none_iff.mpr hlt] at h
  exact absurd h (by simp)

end Json

open Json (tooDeep? tooDeep?_eq_none_iff tooDeep?_eq_some le_of_tooDeep?_eq_some)

mutual

/-- The first flaw of a tree inside `depth` brackets and braces. -/
def Expr.flaw? (depth : Nat) : Expr → Option Error
  | .node _ left right =>
    (tooDeep? depth).or ((left.flaw? (depth + 1)).or (right.flaw? (depth + 1)))

/-- The first flaw of an operand inside `depth` brackets and braces. -/
def Operand.flaw? (depth : Nat) : Operand → Option Error
  | .absent => none
  | .expr tree => (tooDeep? depth).or (tree.flaw? (depth + 1))
  | .list items =>
    (tooDeep? depth).or ((tooDeep? (depth + 1)).or (Expr.flawAll? (depth + 2) items))
  | .range _ => (tooDeep? depth).or (tooDeep? (depth + 1))
  | .column _ => tooDeep? depth
  | .value scalar => (tooDeep? depth).or scalar.flaw?

/-- The first flaw of several trees inside `depth` brackets and braces. -/
def Expr.flawAll? (depth : Nat) : List Expr → Option Error
  | [] => none
  | item :: rest => (item.flaw? depth).or (Expr.flawAll? depth rest)

end

/-! ## Trees without a flaw -/

/-- None of some constants has a flaw. -/
def AllFlawless (scalars : List Scalar) : Prop :=
  ∀ s ∈ scalars, s.flaw? = none

theorem allFlawless_nil : AllFlawless [] := by
  intro s hs
  exact absurd hs List.not_mem_nil

theorem allFlawless_append {first second : List Scalar} :
    AllFlawless (first ++ second) ↔ AllFlawless first ∧ AllFlawless second :=
  List.forall_mem_append

-- The bound on the depth carries the induction: an operand without brackets has no flaw anywhere,
-- but fits only where the brackets around it do.

mutual

/-- A tree has no flaw if its constants have none and its nesting fits. -/
theorem Expr.flaw?_eq_none_iff (e : Expr) {depth : Nat} (hdepth : depth ≤ nestingLimit) :
    e.flaw? depth = none ↔ AllFlawless e.scalars ∧ depth + e.nesting ≤ nestingLimit := by
  cases e with
  | node op left right =>
      rw [Expr.flaw?, Option.or_eq_none_iff, Option.or_eq_none_iff, tooDeep?_eq_none_iff,
        Expr.scalars, allFlawless_append, Expr.nesting]
      constructor
      · rintro ⟨hlt, hleft, hright⟩
        obtain ⟨hnone, hfits⟩ := (left.flaw?_eq_none_iff hlt).mp hleft
        obtain ⟨hnone', hfits'⟩ := (right.flaw?_eq_none_iff hlt).mp hright
        exact ⟨⟨hnone, hnone'⟩, by omega⟩
      · rintro ⟨⟨hnone, hnone'⟩, hfits⟩
        have hlt : depth < nestingLimit := by omega
        exact ⟨hlt, (left.flaw?_eq_none_iff hlt).mpr ⟨hnone, by omega⟩,
          (right.flaw?_eq_none_iff hlt).mpr ⟨hnone', by omega⟩⟩

theorem Operand.flaw?_eq_none_iff (operand : Operand) {depth : Nat}
    (hdepth : depth ≤ nestingLimit) :
    operand.flaw? depth = none ↔
      AllFlawless operand.scalars ∧ depth + operand.nesting ≤ nestingLimit := by
  cases operand with
  | absent => exact iff_of_true rfl ⟨allFlawless_nil, hdepth⟩
  | expr tree =>
      rw [Operand.flaw?, Option.or_eq_none_iff, tooDeep?_eq_none_iff, Operand.scalars,
        Operand.nesting]
      constructor
      · rintro ⟨hlt, htree⟩
        obtain ⟨hnone, hfits⟩ := (tree.flaw?_eq_none_iff hlt).mp htree
        exact ⟨hnone, by omega⟩
      · rintro ⟨hnone, hfits⟩
        have hlt : depth < nestingLimit := by omega
        exact ⟨hlt, (tree.flaw?_eq_none_iff hlt).mpr ⟨hnone, by omega⟩⟩
  | list items =>
      rw [Operand.flaw?, Option.or_eq_none_iff, Option.or_eq_none_iff, tooDeep?_eq_none_iff,
        tooDeep?_eq_none_iff, Operand.scalars, Operand.nesting]
      -- the bracket is the inner one of the two, so its place is the one that decides
      constructor
      · rintro ⟨-, hlt, hitems⟩
        obtain ⟨hnone, hfits⟩ := (Expr.flawAll?_eq_none_iff items hlt).mp hitems
        exact ⟨hnone, by omega⟩
      · rintro ⟨hnone, hfits⟩
        have hlt : depth + 1 < nestingLimit := by omega
        exact ⟨by omega, hlt, (Expr.flawAll?_eq_none_iff items hlt).mpr ⟨hnone, by omega⟩⟩
  | range boundary =>
      rw [Operand.flaw?, Option.or_eq_none_iff, tooDeep?_eq_none_iff, tooDeep?_eq_none_iff]
      constructor
      · rintro ⟨-, hlt⟩
        exact ⟨allFlawless_nil, hlt⟩
      · rintro ⟨-, hfits⟩
        rw [Operand.nesting] at hfits
        exact ⟨by omega, by omega⟩
  | column column =>
      rw [Operand.flaw?, tooDeep?_eq_none_iff]
      exact ⟨fun hlt => ⟨allFlawless_nil, hlt⟩, fun h => h.2⟩
  | value scalar =>
      rw [Operand.flaw?, Option.or_eq_none_iff, tooDeep?_eq_none_iff, Operand.scalars, AllFlawless,
        List.forall_mem_singleton]
      exact and_comm

theorem Expr.flawAll?_eq_none_iff (items : List Expr) {depth : Nat}
    (hdepth : depth ≤ nestingLimit) :
    Expr.flawAll? depth items = none ↔
      AllFlawless (Expr.scalarsAll items) ∧ depth + Expr.nestings items ≤ nestingLimit := by
  cases items with
  | nil => exact iff_of_true rfl ⟨allFlawless_nil, hdepth⟩
  | cons item rest =>
      rw [Expr.flawAll?, Option.or_eq_none_iff, item.flaw?_eq_none_iff hdepth,
        Expr.flawAll?_eq_none_iff rest hdepth, Expr.scalarsAll, allFlawless_append, Expr.nestings]
      constructor
      · rintro ⟨⟨hnone, hfits⟩, hnone', hfits'⟩
        exact ⟨⟨hnone, hnone'⟩, by omega⟩
      · rintro ⟨⟨hnone, hnone'⟩, hfits⟩
        exact ⟨⟨hnone, by omega⟩, hnone', by omega⟩

end

/-! ## The kinds of flaws -/

/-- A flaw of a tree with the given constants that nests `nesting` deep: the nesting, if that is
beyond the limit, or the flaw of a constant. -/
def IsFlaw (scalars : List Scalar) (nesting : Nat) (error : Error) : Prop :=
  (error = .malformed .nesting ∧ nestingLimit < nesting) ∨ ∃ s ∈ scalars, s.flaw? = some error

theorem IsFlaw.mono {scalars scalars' : List Scalar} {m n : Nat} {error : Error}
    (h : IsFlaw scalars m error) (hsub : scalars ⊆ scalars') (hle : m ≤ n) :
    IsFlaw scalars' n error := by
  rcases h with ⟨herror, hlt⟩ | ⟨s, hs, hflaw⟩
  · exact .inl ⟨herror, Nat.lt_of_lt_of_le hlt hle⟩
  · exact .inr ⟨s, hsub hs, hflaw⟩

theorem isFlaw_of_tooDeep? {scalars : List Scalar} {depth n : Nat} {error : Error}
    (h : tooDeep? depth = some error) (hlt : depth < n) : IsFlaw scalars n error :=
  .inl ⟨tooDeep?_eq_some h, Nat.lt_of_le_of_lt (le_of_tooDeep?_eq_some h) hlt⟩

mutual

/-- A flaw of a tree is a nesting beyond the limit, or the flaw of a constant. -/
theorem Expr.isFlaw_of_flaw? (e : Expr) {depth : Nat} {error : Error}
    (h : e.flaw? depth = some error) : IsFlaw e.scalars (depth + e.nesting) error := by
  cases e with
  | node op left right =>
      rw [Expr.flaw?, Option.or_eq_some_iff, Option.or_eq_some_iff] at h
      rw [Expr.scalars, Expr.nesting]
      rcases h with h | ⟨-, h | ⟨-, h⟩⟩
      · exact isFlaw_of_tooDeep? h (by omega)
      · exact (left.isFlaw_of_flaw? h).mono (List.subset_append_left _ _) (by omega)
      · exact (right.isFlaw_of_flaw? h).mono (List.subset_append_right _ _) (by omega)

theorem Operand.isFlaw_of_flaw? (operand : Operand) {depth : Nat} {error : Error}
    (h : operand.flaw? depth = some error) :
    IsFlaw operand.scalars (depth + operand.nesting) error := by
  cases operand with
  | absent => exact absurd h (by simp [Operand.flaw?])
  | expr tree =>
      rw [Operand.flaw?, Option.or_eq_some_iff] at h
      rw [Operand.scalars, Operand.nesting]
      rcases h with h | ⟨-, h⟩
      · exact isFlaw_of_tooDeep? h (by omega)
      · exact (tree.isFlaw_of_flaw? h).mono (List.Subset.refl _) (by omega)
  | list items =>
      rw [Operand.flaw?, Option.or_eq_some_iff, Option.or_eq_some_iff] at h
      rw [Operand.scalars, Operand.nesting]
      rcases h with h | ⟨-, h | ⟨-, h⟩⟩
      · exact isFlaw_of_tooDeep? h (by omega)
      · exact isFlaw_of_tooDeep? h (by omega)
      · exact (Expr.isFlaw_of_flawAll? items h).mono (List.Subset.refl _) (by omega)
  | range boundary =>
      rw [Operand.flaw?, Option.or_eq_some_iff] at h
      rw [Operand.nesting]
      rcases h with h | ⟨-, h⟩
      · exact isFlaw_of_tooDeep? h (by omega)
      · exact isFlaw_of_tooDeep? h (by omega)
  | column column => exact isFlaw_of_tooDeep? h (Nat.lt_succ_self depth)
  | value scalar =>
      rw [Operand.flaw?, Option.or_eq_some_iff] at h
      rcases h with h | ⟨-, h⟩
      · exact isFlaw_of_tooDeep? h (Nat.lt_succ_self depth)
      · exact .inr ⟨scalar, List.mem_cons_self, h⟩

theorem Expr.isFlaw_of_flawAll? (items : List Expr) {depth : Nat} {error : Error}
    (h : Expr.flawAll? depth items = some error) :
    IsFlaw (Expr.scalarsAll items) (depth + Expr.nestings items) error := by
  cases items with
  | nil => exact absurd h (by simp [Expr.flawAll?])
  | cons item rest =>
      rw [Expr.flawAll?, Option.or_eq_some_iff] at h
      rw [Expr.scalarsAll, Expr.nestings]
      rcases h with h | ⟨-, h⟩
      · exact (item.isFlaw_of_flaw? h).mono (List.subset_append_left _ _) (by omega)
      · exact (Expr.isFlaw_of_flawAll? rest h).mono (List.subset_append_right _ _) (by omega)

end

end SqlFilter
