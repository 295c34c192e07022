import SqlFilter.Proofs.Walk.FirstFailure

set_option autoImplicit false

/-! # Outcomes one after another

`List.mapM` takes the outcomes of the members of a list in order, until one of them fails. So there
are values when every member has one (`mapM_eq_ok_iff`), and otherwise the error is that of the
first member that fails (`mapM_eq_error_iff`). The items of a list operand are rendered in this way.
-/

namespace SqlFilter

variable {ε α β : Type}

theorem map_eq_ok_iff {x : Except ε α} {g : α → β} {b : β} :
    x.map g = .ok b ↔ ∃ a, x = .ok a ∧ b = g a := by
  cases x <;> simp [Except.map, eq_comm]

theorem map_eq_error_iff {x : Except ε α} {g : α → β} {e : ε} :
    x.map g = .error e ↔ x = .error e := by
  cases x <;> simp [Except.map]

variable {f : α → Except ε β}

theorem mapM_eq_ok_iff {xs : List α} {ys : List β} :
    xs.mapM f = .ok ys ↔ List.Forall₂ (fun x y => f x = .ok y) xs ys := by
  induction xs generalizing ys with
  | nil =>
      rw [List.mapM_nil, List.forall₂_nil_left_iff]
      exact ⟨fun h => (Except.ok.inj h).symm, fun h => congrArg Except.ok h.symm⟩
  | cons x xs ih =>
      rw [List.mapM_cons, List.forall₂_cons_left_iff]
      constructor
      · intro h
        cases hx : f x with
        | error e => rw [hx] at h; cases h
        | ok y =>
            cases hxs : xs.mapM f with
            | error e => rw [hx, hxs] at h; cases h
            | ok ys' =>
                rw [hx, hxs] at h
                exact ⟨y, ys', rfl, ih.mp hxs, (Except.ok.inj h).symm⟩
      · rintro ⟨y, ys', hx, hxs, rfl⟩
        rw [hx, ih.mpr hxs]
        rfl

/-- The members fail with what the first of them that fails does. -/
theorem failure?_mapM (xs : List α) :
    failure? (xs.mapM f) = xs.findSome? fun x => failure? (f x) := by
  induction xs with
  | nil => rfl
  | cons x xs ih =>
      rw [List.mapM_cons, List.findSome?_cons, ← ih]
      cases f x with
      | error e => rfl
      | ok y => cases xs.mapM f <;> rfl

theorem mapM_eq_error_iff {xs : List α} {e : ε} :
    xs.mapM f = .error e ↔ ∃ before x after, xs = before ++ x :: after ∧
      (∀ x' ∈ before, ∃ y, f x' = .ok y) ∧ f x = .error e := by
  rw [← failure?_eq_some_iff, failure?_mapM, List.findSome?_eq_some_iff]
  simp only [failure?_eq_none_iff, failure?_eq_some_iff]
  constructor
  · rintro ⟨before, x, after, hxs, hx, hbefore⟩
    exact ⟨before, x, after, hxs, hbefore, hx⟩
  · rintro ⟨before, x, after, hxs, hbefore, hx⟩
    exact ⟨before, x, after, hxs, hx, hbefore⟩

namespace Table

/-- The items of a list are rendered in order. -/
theorem renderAll_eq_mapM (table : Table) (items : List Expr) :
    table.renderAll items = items.mapM table.render := by
  induction items with
  | nil => rw [renderAll_nil]; rfl
  | cons item rest ih =>
      rw [renderAll_cons, ih, List.mapM_cons]
      cases table.render item with
      | error e => rfl
      | ok text => cases rest.mapM table.render <;> rfl

theorem renderAll_eq_ok_iff {table : Table} {items : List Expr} {texts : List String} :
    table.renderAll items = .ok texts ↔
      List.Forall₂ (fun item text => table.render item = .ok text) items texts := by
  rw [renderAll_eq_mapM, mapM_eq_ok_iff]

theorem renderAll_eq_error_iff {table : Table} {items : List Expr} {e : RenderError} :
    table.renderAll items = .error e ↔
      ∃ before item after, items = before ++ item :: after ∧
        (∀ item' ∈ before, ∃ text, table.render item' = .ok text) ∧
        table.render item = .error e := by
  rw [renderAll_eq_mapM, mapM_eq_error_iff]

theorem renderAll_append (table : Table) (items items' : List Expr) :
    table.renderAll (items ++ items') = (table.renderAll items).bind fun texts =>
      (table.renderAll items').map fun texts' => texts ++ texts' := by
  rw [renderAll_eq_mapM, renderAll_eq_mapM, renderAll_eq_mapM, List.mapM_append]
  cases items.mapM table.render with
  | error e => rfl
  | ok texts => cases items'.mapM table.render <;> rfl

end Table

end SqlFilter
