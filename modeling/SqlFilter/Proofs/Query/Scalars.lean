import SqlFilter.Query.Basic

set_option autoImplicit false

/-! # The constants of a query tree

`Expr.scalars` lists the constants of a tree from left to right, and `Expr.floats` the doubles among
them. `Expr.mapScalars` puts another constant in the place of each. That depends on the constants
that are there and on nothing else (`Expr.mapScalars_congr`), and everything else in the tree stays
as it is.
-/

namespace SqlFilter

/-! ## Constants and doubles -/

mutual

/-- The constants of a tree. -/
def Expr.scalars : Expr → List Scalar
  | .node _ left right => left.scalars ++ right.scalars

/-- The constants of an operand. -/
def Operand.scalars : Operand → List Scalar
  | .expr tree => tree.scalars
  | .list items => Expr.scalarsAll items
  | .value scalar => [scalar]
  | .absent | .range _ | .column _ => []

/-- The constants of several trees. -/
def Expr.scalarsAll : List Expr → List Scalar
  | [] => []
  | item :: rest => item.scalars ++ Expr.scalarsAll rest

end

/-- The double of a constant. -/
def Scalar.floats : Scalar → List Binary64
  | .float x => [x]
  | .bool _ | .int _ | .uint _ | .string _ => []

/-- The doubles of a tree. -/
def Expr.floats (e : Expr) : List Binary64 :=
  e.scalars.flatMap Scalar.floats

theorem Scalar.mem_floats {s : Scalar} {x : Binary64} : x ∈ s.floats ↔ s = .float x := by
  cases s with
  | float y => simp [floats, eq_comm]
  | bool value => simp [floats]
  | int value => simp [floats]
  | uint value => simp [floats]
  | string value => simp [floats]

theorem Expr.mem_floats {e : Expr} {x : Binary64} : x ∈ e.floats ↔ Scalar.float x ∈ e.scalars := by
  rw [floats, List.mem_flatMap]
  constructor
  · rintro ⟨s, hs, hx⟩
    rwa [← Scalar.mem_floats.mp hx]
  · intro h
    exact ⟨_, h, Scalar.mem_floats.mpr rfl⟩

/-! ## Other constants in their places -/

mutual

/-- The tree with other constants. -/
def Expr.mapScalars (f : Scalar → Scalar) : Expr → Expr
  | .node op left right => .node op (left.mapScalars f) (right.mapScalars f)

/-- The operand with other constants. -/
def Operand.mapScalars (f : Scalar → Scalar) : Operand → Operand
  | .absent => .absent
  | .expr tree => .expr (tree.mapScalars f)
  | .list items => .list (Expr.mapScalarsAll f items)
  | .range boundary => .range boundary
  | .column column => .column column
  | .value scalar => .value (f scalar)

/-- Several trees with other constants. -/
def Expr.mapScalarsAll (f : Scalar → Scalar) : List Expr → List Expr
  | [] => []
  | item :: rest => item.mapScalars f :: Expr.mapScalarsAll f rest

end

theorem Operand.isAbsent_mapScalars (f : Scalar → Scalar) (operand : Operand) :
    (operand.mapScalars f).isAbsent = operand.isAbsent := by
  cases operand <;> rfl

section

variable {f g : Scalar → Scalar}

mutual

/-- Only the constants that are there count. -/
theorem Expr.mapScalars_congr :
    ∀ {e : Expr}, (∀ s ∈ e.scalars, f s = g s) → e.mapScalars f = e.mapScalars g
  | .node op left right, h => by
      rw [Expr.scalars, List.forall_mem_append] at h
      rw [Expr.mapScalars, Expr.mapScalars, Operand.mapScalars_congr h.1,
        Operand.mapScalars_congr h.2]

theorem Operand.mapScalars_congr :
    ∀ {operand : Operand}, (∀ s ∈ operand.scalars, f s = g s) →
      operand.mapScalars f = operand.mapScalars g
  | .expr tree, h => by
      rw [Operand.mapScalars, Operand.mapScalars, Expr.mapScalars_congr h]
  | .list items, h => by
      rw [Operand.mapScalars, Operand.mapScalars, Expr.mapScalarsAll_congr h]
  | .value scalar, h => by
      rw [Operand.mapScalars, Operand.mapScalars, h scalar List.mem_cons_self]
  | .absent, _ | .range _, _ | .column _, _ => rfl

theorem Expr.mapScalarsAll_congr :
    ∀ {items : List Expr}, (∀ s ∈ Expr.scalarsAll items, f s = g s) →
      Expr.mapScalarsAll f items = Expr.mapScalarsAll g items
  | [], _ => rfl
  | item :: rest, h => by
      rw [Expr.scalarsAll, List.forall_mem_append] at h
      rw [Expr.mapScalarsAll, Expr.mapScalarsAll, Expr.mapScalars_congr h.1,
        Expr.mapScalarsAll_congr h.2]

end

end

mutual

/-- A tree with its own constants is itself. -/
theorem Expr.mapScalars_id : ∀ e : Expr, e.mapScalars id = e
  | .node op left right => by
      rw [Expr.mapScalars, Operand.mapScalars_id left, Operand.mapScalars_id right]

theorem Operand.mapScalars_id : ∀ operand : Operand, operand.mapScalars id = operand
  | .expr tree => by rw [Operand.mapScalars, Expr.mapScalars_id tree]
  | .list items => by rw [Operand.mapScalars, Expr.mapScalarsAll_id items]
  | .absent | .range _ | .column _ | .value _ => rfl

theorem Expr.mapScalarsAll_id : ∀ items : List Expr, Expr.mapScalarsAll id items = items
  | [] => rfl
  | item :: rest => by
      rw [Expr.mapScalarsAll, Expr.mapScalars_id item, Expr.mapScalarsAll_id rest]

end

/-- A tree stays as it is if its constants do. -/
theorem Expr.mapScalars_eq_self {f : Scalar → Scalar} {e : Expr} (h : ∀ s ∈ e.scalars, f s = s) :
    e.mapScalars f = e := by
  rw [Expr.mapScalars_congr (g := id) h, e.mapScalars_id]

section

variable (f : Scalar → Scalar)

mutual

/-- The depth does not depend on the constants. -/
theorem Expr.depth_mapScalars : ∀ e : Expr, (e.mapScalars f).depth = e.depth
  | .node op left right => by
      rw [Expr.mapScalars, Expr.depth, Expr.depth, Operand.depth_mapScalars left,
        Operand.depth_mapScalars right]

theorem Operand.depth_mapScalars : ∀ operand : Operand,
    (operand.mapScalars f).depth = operand.depth
  | .expr tree => by
      rw [Operand.mapScalars, Operand.depth, Operand.depth]
      exact Expr.depth_mapScalars tree
  | .list items => by
      rw [Operand.mapScalars, Operand.depth, Operand.depth]
      exact Expr.depths_mapScalarsAll items
  | .absent | .range _ | .column _ | .value _ => rfl

theorem Expr.depths_mapScalarsAll : ∀ items : List Expr,
    Expr.depths (Expr.mapScalarsAll f items) = Expr.depths items
  | [] => rfl
  | item :: rest => by
      rw [Expr.mapScalarsAll, Expr.depths, Expr.depths, Expr.depth_mapScalars item,
        Expr.depths_mapScalarsAll rest]

end

end

end SqlFilter
