import SqlFilter.Query.Equality
import SqlFilter.Proofs.Json.Transport

set_option autoImplicit false

/-! # Canonical trees

A tree is canonical when a document can hold each of its constants as it is: an unsigned integer
only where it does not fit the signed kind, and no double that is not finite. A canonical tree is its
own normal form (`Expr.norm_eq_of_allCanonical`), so it is read back as it was written where its
nesting allows and its doubles read back. `Expr.Fits` says both of a tree in a place inside some brackets and braces, and the
lemmas below it put trees that fit together from parts that do.
-/

namespace SqlFilter

open Json (nestingLimit)

/-! ## Constants -/

/-- A document can hold the constant as it is. -/
def Scalar.IsCanonical : Scalar → Prop
  | .uint value => 2 ^ 63 ≤ value.toNat
  | .float value => value.isFinite = true
  | .bool _ | .int _ | .string _ => True

theorem Scalar.IsCanonical.norm_eq {s : Scalar} (h : s.IsCanonical) : s.norm = s := by
  cases s with
  | uint value => exact if_neg (Nat.not_lt.mpr h)
  | bool value => rfl
  | int value => rfl
  | float value => rfl
  | string value => rfl

/-- A canonical constant is the same as itself, because it is not the number that is none. -/
theorem Scalar.IsCanonical.same_self {s : Scalar} (h : s.IsCanonical) : s.same s = true := by
  cases s with
  | float x =>
      cases x with
      | nan => cases h
      | infinite negative => cases h
      | finite negative x => simp [same, Binary64.same]
  | bool value => exact beq_self_eq_true value
  | int value => exact beq_self_eq_true value
  | uint value => exact beq_self_eq_true value
  | string value => exact beq_self_eq_true value

/-- Every one of some constants is canonical. -/
def AllCanonical (scalars : List Scalar) : Prop :=
  ∀ s ∈ scalars, s.IsCanonical

theorem allCanonical_nil : AllCanonical [] := by
  intro s hs
  exact absurd hs List.not_mem_nil

theorem allCanonical_append {first second : List Scalar} :
    AllCanonical (first ++ second) ↔ AllCanonical first ∧ AllCanonical second :=
  List.forall_mem_append

/-! ## What is canonical comes back -/

/-- A canonical tree is its own normal form. -/
theorem Expr.norm_eq_of_allCanonical {e : Expr} (h : AllCanonical e.scalars) : e.norm = e :=
  Expr.mapScalars_eq_self fun s hs => (h s hs).norm_eq

theorem Expr.allFinite_of_allCanonical {e : Expr} (h : AllCanonical e.scalars) :
    AllFinite e.floats := by
  intro x hx
  exact h (.float x) (Expr.mem_floats.mp hx)

mutual

/-- A canonical tree is the same as itself. -/
theorem Expr.same_self_of_allCanonical : ∀ {e : Expr}, AllCanonical e.scalars → e.same e = true
  | .node op left right, h => by
      rw [Expr.scalars, allCanonical_append] at h
      rw [Expr.same, Operand.same_self_of_allCanonical h.1, Operand.same_self_of_allCanonical h.2,
        beq_self_eq_true]
      rfl

theorem Operand.same_self_of_allCanonical :
    ∀ {operand : Operand}, AllCanonical operand.scalars → operand.same operand = true
  | .expr tree, h => by
      rw [Operand.same]
      exact Expr.same_self_of_allCanonical h
  | .list items, h => by
      rw [Operand.same]
      exact Expr.sameAll_self_of_allCanonical h
  | .value scalar, h => by
      rw [Operand.same]
      exact (h scalar List.mem_cons_self).same_self
  | .absent, _ => rfl
  | .range boundary, _ => beq_self_eq_true boundary
  | .column column, _ => beq_self_eq_true column

theorem Expr.sameAll_self_of_allCanonical :
    ∀ {items : List Expr}, AllCanonical (Expr.scalarsAll items) → Expr.sameAll items items = true
  | [], _ => rfl
  | item :: rest, h => by
      rw [Expr.scalarsAll, allCanonical_append] at h
      rw [Expr.sameAll, Expr.same_self_of_allCanonical h.1, Expr.sameAll_self_of_allCanonical h.2]
      rfl

end

/-! ## Depth and nesting -/

mutual

/-- A level of nodes costs two levels of nesting or more, except for the outermost one. -/
theorem Expr.two_mul_depth_le : ∀ e : Expr, 2 * e.depth ≤ e.nesting + 1
  | .node op left right => by
      have hleft := Operand.two_mul_depth_le left
      have hright := Operand.two_mul_depth_le right
      rw [Expr.depth, Expr.nesting]
      omega

theorem Operand.two_mul_depth_le : ∀ operand : Operand, 2 * operand.depth ≤ operand.nesting
  | .expr tree => Expr.two_mul_depth_le tree
  | .list items => by
      have hitems := Expr.two_mul_depths_le items
      rw [Operand.depth, Operand.nesting]
      omega
  | .absent | .range _ | .column _ | .value _ => Nat.zero_le _

theorem Expr.two_mul_depths_le : ∀ items : List Expr,
    2 * Expr.depths items ≤ Expr.nestings items + 1
  | [] => Nat.zero_le _
  | item :: rest => by
      have hitem := Expr.two_mul_depth_le item
      have hrest := Expr.two_mul_depths_le rest
      rw [Expr.depths, Expr.nestings]
      omega

end

/-! ## Trees that fit -/

/-- The tree is canonical, and its nesting stays within the limit inside `depth` brackets and
braces. -/
structure Expr.Fits (depth : Nat) (e : Expr) : Prop where
  canonical : AllCanonical e.scalars
  nesting_le : depth + e.nesting ≤ nestingLimit

/-- The operand is canonical, and its nesting stays within the limit inside `depth` brackets and
braces. -/
structure Operand.Fits (depth : Nat) (operand : Operand) : Prop where
  canonical : AllCanonical operand.scalars
  nesting_le : depth + operand.nesting ≤ nestingLimit

section

variable {depth : Nat}

theorem Expr.fits_node (op : Operator) {left right : Operand} (hleft : left.Fits (depth + 1))
    (hright : right.Fits (depth + 1)) : (Expr.node op left right).Fits depth where
  canonical := by
    rw [Expr.scalars, allCanonical_append]
    exact ⟨hleft.canonical, hright.canonical⟩
  nesting_le := by
    have hl := hleft.nesting_le
    have hr := hright.nesting_le
    rw [Expr.nesting]
    omega

theorem Operand.fits_absent (h : depth ≤ nestingLimit) : Operand.absent.Fits depth :=
  ⟨allCanonical_nil, h⟩

theorem Operand.fits_expr {tree : Expr} (h : tree.Fits (depth + 1)) :
    (Operand.expr tree).Fits depth where
  canonical := h.canonical
  nesting_le := by
    have hle := h.nesting_le
    rw [Operand.nesting]
    omega

theorem Operand.fits_list {items : List Expr} (hdepth : depth + 2 ≤ nestingLimit)
    (h : ∀ item ∈ items, item.Fits (depth + 2)) : (Operand.list items).Fits depth := by
  have hall : AllCanonical (Expr.scalarsAll items) ∧
      depth + 2 + Expr.nestings items ≤ nestingLimit := by
    induction items with
    | nil => exact ⟨allCanonical_nil, hdepth⟩
    | cons item rest ih =>
        have hitem := h item List.mem_cons_self
        have hrest := ih fun other hother => h other (List.mem_cons_of_mem item hother)
        have hle := hitem.nesting_le
        rw [Expr.scalarsAll, allCanonical_append, Expr.nestings]
        exact ⟨⟨hitem.canonical, hrest.1⟩, by omega⟩
  refine ⟨hall.1, ?_⟩
  rw [Operand.nesting]
  omega

theorem Operand.fits_range (boundary : Boundary) (h : depth + 2 ≤ nestingLimit) :
    (Operand.range boundary).Fits depth :=
  ⟨allCanonical_nil, h⟩

theorem Operand.fits_column (column : Column) (h : depth < nestingLimit) :
    (Operand.column column).Fits depth :=
  ⟨allCanonical_nil, h⟩

theorem Operand.fits_value {scalar : Scalar} (hscalar : scalar.IsCanonical)
    (h : depth < nestingLimit) : (Operand.value scalar).Fits depth :=
  ⟨List.forall_mem_singleton.mpr hscalar, h⟩

end

namespace Expr.Fits

variable {e : Expr}

/-- A tree that fits is read from its document as itself, if its doubles read back. -/
theorem ofJson_toJson (h : e.Fits 0) (hfloats : AllReadBack e.floats) :
    Expr.ofJson e.toJson = .ok e := by
  have hnesting : 0 + e.nesting ≤ nestingLimit := h.nesting_le
  have hflaw : e.flaw? 0 = none := (flaw?_eq_none_iff_of_readBack hfloats).mpr
    ⟨allFinite_of_allCanonical h.canonical, by omega⟩
  rw [ofJson_toJson_of_flaw? hfloats hflaw, norm_eq_of_allCanonical h.canonical]

/-- A tree that fits has at most 64 levels. -/
theorem depth_le (h : e.Fits 0) : e.depth ≤ 64 := by
  have hnesting : 0 + e.nesting ≤ 127 := h.nesting_le
  have hdepth := e.two_mul_depth_le
  omega

end Expr.Fits

end SqlFilter
