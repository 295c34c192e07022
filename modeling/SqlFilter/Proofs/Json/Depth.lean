import SqlFilter.Query.Build
import SqlFilter.Proofs.Json.Canonical

set_option autoImplicit false

/-! # The depth of a tree and the nesting of its document

A level of nodes costs between two and three levels of brackets: a node stands in braces of its own,
and what leads to the node below it is a brace (`expr`) or a brace and a bracket (`list`). Only the
outermost node has nothing around it, and only a list or a range boundary puts two brackets into the
innermost one. So the depth bounds the nesting from both sides (`Expr.two_mul_depth_le`,
`Expr.nesting_le_three_mul_depth`), and with it the trees that the nesting limit refuses. Negations
inside one another have the least nesting for their depth, lists inside one another the greatest.
-/

namespace SqlFilter

open Json (nestingLimit)

/-! ## The nesting from above -/

mutual

/-- A level of nodes costs three levels of nesting or fewer. -/
theorem Expr.nesting_le_three_mul_depth : ∀ e : Expr, e.nesting ≤ 3 * e.depth
  | .node op left right => by
      have hleft := Operand.nesting_le_three_mul_depth left
      have hright := Operand.nesting_le_three_mul_depth right
      rw [Expr.nesting, Expr.depth]
      omega

-- the two levels to spare are those of a list or of a range boundary
theorem Operand.nesting_le_three_mul_depth : ∀ operand : Operand,
    operand.nesting ≤ 3 * operand.depth + 2
  | .expr tree => by
      have htree := Expr.nesting_le_three_mul_depth tree
      rw [Operand.nesting, Operand.depth]
      omega
  | .list items => by
      have hitems := Expr.nestings_le_three_mul_depths items
      rw [Operand.nesting, Operand.depth]
      omega
  | .absent => Nat.zero_le _
  | .range _ => Nat.le_refl 2
  | .column _ | .value _ => Nat.le_succ 1

theorem Expr.nestings_le_three_mul_depths : ∀ items : List Expr,
    Expr.nestings items ≤ 3 * Expr.depths items
  | [] => Nat.le_refl 0
  | item :: rest => by
      have hitem := Expr.nesting_le_three_mul_depth item
      have hrest := Expr.nestings_le_three_mul_depths rest
      rw [Expr.nestings, Expr.depths]
      omega

end

/-! ## Trees that attain the bounds -/

/-- A node without operands, negated `n` times. -/
def Expr.negated : Nat → Expr
  | 0 => .unary .literal .absent
  | n + 1 => .not (Expr.negated n)

theorem Expr.depth_negated (n : Nat) : (Expr.negated n).depth = n + 1 := by
  induction n with
  | zero => rfl
  | succ n ih =>
      show 1 + max (Expr.negated n).depth 0 = n + 2
      omega

theorem Expr.nesting_negated (n : Nat) : (Expr.negated n).nesting = 2 * n + 1 := by
  induction n with
  | zero => rfl
  | succ n ih =>
      show max ((Expr.negated n).nesting + 1) 0 + 1 = 2 * (n + 1) + 1
      omega

/-- An empty list inside `n` lists of one item. -/
def Expr.boxed : Nat → Expr
  | 0 => .list []
  | n + 1 => .list [Expr.boxed n]

theorem Expr.depth_boxed (n : Nat) : (Expr.boxed n).depth = n + 1 := by
  induction n with
  | zero => rfl
  | succ n ih =>
      show 1 + max (max (Expr.boxed n).depth 0) 0 = n + 2
      omega

theorem Expr.nesting_boxed (n : Nat) : (Expr.boxed n).nesting = 3 * (n + 1) := by
  induction n with
  | zero => rfl
  | succ n ih =>
      show max (max (Expr.boxed n).nesting 0 + 2) 0 + 1 = 3 * (n + 2)
      omega

/-! ## The trees that are refused for their nesting -/

/-- A tree that nests no deeper than the limit is not refused for its nesting. -/
theorem Expr.message_ne_of_nesting_le {e : Expr} (h : e.nesting ≤ nestingLimit) {error : Json.Error}
    (herror : Expr.ofJson e.toJson = .error error) : error.message ≠ "recursion limit exceeded" := by
  have hflaw := e.ofJson_toJson_eq_error_iff.mp herror
  rcases e.isFlaw_of_flaw? hflaw with ⟨-, hlt⟩ | ⟨s, -, hscalar⟩
  · omega
  · rcases s.flaw?_cases hscalar with rfl | rfl
    · decide
    · decide

/-- A tree that nests deeper than the limit is refused, and for its nesting if its doubles are
finite and read back. -/
theorem Expr.exists_error_of_lt_nesting {e : Expr} (h : nestingLimit < e.nesting) :
    ∃ error, Expr.ofJson e.toJson = .error error ∧
      (AllReadBack e.floats → AllFinite e.floats → error = .malformed .nesting) := by
  cases hflaw : e.flaw? 0 with
  | none =>
      have hfits := ((e.flaw?_eq_none_iff (Nat.zero_le _)).mp hflaw).2
      omega
  | some error =>
      exact ⟨error, e.ofJson_toJson_eq_error_iff.mpr hflaw, fun hfloats hfinite =>
        Expr.eq_nesting_of_flaw? hfloats hfinite hflaw⟩

/-- A tree that nests no deeper than the limit comes back if its doubles are finite and read back. -/
theorem Expr.ofJson_toJson_of_nesting_le {e : Expr} (h : e.nesting ≤ nestingLimit)
    (hfloats : AllReadBack e.floats) (hfinite : AllFinite e.floats) :
    Expr.ofJson e.toJson = .ok e.norm :=
  Expr.ofJson_toJson_of_flaw? hfloats
    ((Expr.flaw?_eq_none_iff_of_readBack hfloats).mpr ⟨hfinite, h⟩)

/-- **The depth bounds the nesting from both sides.** The document of a tree nests at least twice as
deep as the tree, less one, and at most three times as deep. So a tree of at most 42 levels is never
refused for its nesting, and it comes back if its doubles are finite and read back; a tree of 65
levels or more is always refused, and for its nesting if its doubles are finite and read back. At
every depth there are trees that attain the two bounds. -/
theorem Expr.depth_bounds_nesting :
    (∀ e : Expr, 2 * e.depth - 1 ≤ Json.nesting e.toJson ∧ Json.nesting e.toJson ≤ 3 * e.depth) ∧
    (∀ e : Expr, e.depth ≤ 42 →
      (∀ error, Expr.ofJson e.toJson = .error error →
        error.message ≠ "recursion limit exceeded") ∧
      (AllReadBack e.floats → AllFinite e.floats → Expr.ofJson e.toJson = .ok e.norm)) ∧
    (∀ e : Expr, 65 ≤ e.depth →
      ∃ error, Expr.ofJson e.toJson = .error error ∧
        (AllReadBack e.floats → AllFinite e.floats → error.category = .syntactic ∧
          error.message = "recursion limit exceeded")) ∧
    (∀ depth, 0 < depth →
      (∃ e : Expr, e.depth = depth ∧ Json.nesting e.toJson = 2 * depth - 1) ∧
      (∃ e : Expr, e.depth = depth ∧ Json.nesting e.toJson = 3 * depth)) := by
  have hlimit : nestingLimit = 127 := rfl
  refine ⟨fun e => ?_, fun e hdepth => ?_, fun e hdepth => ?_, fun depth hpos => ?_⟩
  · have hlower := e.two_mul_depth_le
    rw [e.nesting_toJson]
    exact ⟨by omega, e.nesting_le_three_mul_depth⟩
  · have hupper := e.nesting_le_three_mul_depth
    have hfits : e.nesting ≤ nestingLimit := by omega
    exact ⟨fun _ => Expr.message_ne_of_nesting_le hfits, Expr.ofJson_toJson_of_nesting_le hfits⟩
  · have hlower := e.two_mul_depth_le
    have hdeep : nestingLimit < e.nesting := by omega
    obtain ⟨error, herror, hnesting⟩ := Expr.exists_error_of_lt_nesting hdeep
    refine ⟨error, herror, fun hfloats hfinite => ?_⟩
    rw [hnesting hfloats hfinite]
    exact ⟨rfl, rfl⟩
  · obtain ⟨n, rfl⟩ := Nat.exists_eq_add_of_lt hpos
    refine ⟨⟨.negated n, ?_, ?_⟩, ⟨.boxed n, ?_, ?_⟩⟩
    · rw [Expr.depth_negated]
      omega
    · rw [Expr.nesting_toJson, Expr.nesting_negated]
      omega
    · rw [Expr.depth_boxed]
      omega
    · rw [Expr.nesting_toJson, Expr.nesting_boxed]
      omega

/-- One level between the two bounds: the brackets in the name of the column do not count. -/
example : (Expr.column "[\x7b").depth = 1 ∧ Json.nesting (Expr.column "[\x7b").toJson = 2 := by
  decide

end SqlFilter
