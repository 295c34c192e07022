import SqlFilter.Query.Equality
import SqlFilter.Query.Build
import SqlFilter.Sql.Render
import SqlFilter.Proofs.Json.Transport

set_option autoImplicit false

/-! # What the normal form keeps

A tree that went through JSON may differ from the one that was written: an unsigned integer that
fits comes back signed. But the two integers are written alike, in SQL and in JSON, and nothing else
looks at them. So a tree and its normal form are walked in the same way by every table, down to the
records on the way, and have the same JSON text. This holds of any change of constants that keeps
their texts (`Expr.walk_mapScalars`, `Expr.writeJson_mapScalars`).
-/

namespace SqlFilter

/-! ## Constants -/

namespace Scalar

/-- A constant changes only if it is an unsigned integer that fits the signed kind. -/
theorem norm_cases (s : Scalar) :
    s.norm = s ∨ ∃ value : UInt64, s = .uint value ∧ value.toNat < 2 ^ 63 ∧
      s.norm = .int (Int64.ofInt value.toNat) := by
  cases s with
  | uint value =>
      by_cases hlt : value.toNat < 2 ^ 63
      · exact .inr ⟨value, rfl, hlt, if_pos hlt⟩
      · exact .inl (if_neg hlt)
  | bool value => exact .inl rfl
  | int value => exact .inl rfl
  | float value => exact .inl rfl
  | string value => exact .inl rfl

/-- An integer that fits both kinds has the same digits in both. -/
theorem toString_toInt_ofInt {n : Nat} (h : n < 2 ^ 63) :
    toString (Int64.ofInt n).toInt = toString n := by
  have hvalue : (Int64.ofInt n).toInt = n := Int64.toInt_ofInt_of_le (by omega) (by omega)
  rw [hvalue]
  rfl

theorem sql_norm (s : Scalar) : s.norm.sql = s.sql := by
  rcases s.norm_cases with hnorm | ⟨value, rfl, hlt, hnorm⟩
  · rw [hnorm]
  · rw [hnorm]
    exact toString_toInt_ofInt hlt

theorem writeJson_norm (s : Scalar) : s.norm.writeJson = s.writeJson := by
  rcases s.norm_cases with hnorm | ⟨value, rfl, hlt, hnorm⟩
  · rw [hnorm]
  · rw [hnorm]
    exact congrArg String.toList (toString_toInt_ofInt hlt)

end Scalar

/-! ## The walk -/

section

variable (table : Table) {f : Scalar → Scalar}

mutual

/-- A tree is walked in the same way with other constants that have the same SQL. -/
theorem Expr.walk_mapScalars (hf : ∀ s, (f s).sql = s.sql) :
    ∀ e : Expr, table.walk (e.mapScalars f) = table.walk e
  | .node op left right => by
      rw [Expr.mapScalars, Table.walk, Table.walk, Operand.walkOperand_mapScalars hf left,
        Operand.walkOperand_mapScalars hf right]

theorem Operand.walkOperand_mapScalars (hf : ∀ s, (f s).sql = s.sql) :
    ∀ operand : Operand, table.walkOperand (operand.mapScalars f) = table.walkOperand operand
  | .absent => rfl
  | .expr tree => by
      rw [Operand.mapScalars, Table.walkOperand, Table.walkOperand]
      exact Expr.walk_mapScalars hf tree
  | .list items => by
      rw [Operand.mapScalars, Table.walkOperand, Table.walkOperand,
        Expr.walkAll_mapScalarsAll hf items]
  | .range boundary => rfl
  | .column column => rfl
  | .value scalar => by
      rw [Operand.mapScalars, Table.walkOperand, Table.walkOperand, hf]

theorem Expr.walkAll_mapScalarsAll (hf : ∀ s, (f s).sql = s.sql) :
    ∀ items : List Expr, table.walkAll (Expr.mapScalarsAll f items) = table.walkAll items
  | [] => rfl
  | item :: rest => by
      rw [Expr.mapScalarsAll, Table.walkAll, Table.walkAll, Expr.walk_mapScalars hf item,
        Expr.walkAll_mapScalarsAll hf rest]

end

end

/-! ## The document -/

section

variable {f : Scalar → Scalar}

mutual

/-- A tree has the same JSON text with other constants that have the same JSON text. -/
theorem Expr.writeJson_mapScalars (hf : ∀ s, (f s).writeJson = s.writeJson) :
    ∀ e : Expr, (e.mapScalars f).writeJson = e.writeJson
  | .node op left right => by
      rw [Expr.mapScalars, Expr.writeJson, Expr.writeJson, sideMember, sideMember, sideMember,
        sideMember, left.isAbsent_mapScalars, right.isAbsent_mapScalars,
        Operand.writeJson_mapScalars hf left, Operand.writeJson_mapScalars hf right]

theorem Operand.writeJson_mapScalars (hf : ∀ s, (f s).writeJson = s.writeJson) :
    ∀ operand : Operand, (operand.mapScalars f).writeJson = operand.writeJson
  | .absent => rfl
  | .expr tree => by
      rw [Operand.mapScalars, Operand.writeJson, Operand.writeJson,
        Expr.writeJson_mapScalars hf tree]
  | .list items => by
      rw [Operand.mapScalars, Operand.writeJson, Operand.writeJson,
        Expr.writeAllJson_mapScalarsAll hf items]
  | .range boundary => rfl
  | .column column => rfl
  | .value scalar => by
      rw [Operand.mapScalars, Operand.writeJson, Operand.writeJson, hf]

theorem Expr.writeAllJson_mapScalarsAll (hf : ∀ s, (f s).writeJson = s.writeJson) :
    ∀ items : List Expr, Expr.writeAllJson (Expr.mapScalarsAll f items) = Expr.writeAllJson items
  | [] => rfl
  | item :: rest => by
      rw [Expr.mapScalarsAll, Expr.writeAllJson, Expr.writeAllJson,
        Expr.writeJson_mapScalars hf item, Expr.writeAllJson_mapScalarsAll hf rest]

end

end

/-! ## Handing a tree over -/

/-- If its doubles read back, what is read from a written tree is its normal form. -/
theorem Expr.eq_norm_of_ofJson_toJson {e e' : Expr} (h : Expr.ofJson e.toJson = .ok e')
    (hfloats : AllReadBack e.floats) : e' = e.norm :=
  (Expr.ofJson_toJson_eq_ok_iff.mp h).2.trans (Expr.mapScalars_reread hfloats)

/-- **Handing a tree over as JSON does not change its SQL.** A tree that is read from the document
of another has the same outcome under every table, be it a text or an error, the same depth, and the
same document again, if the doubles of the other read back from their texts. -/
theorem Expr.render_of_json {e e' : Expr} (h : Expr.ofJson e.toJson = .ok e')
    (hfloats : AllReadBack e.floats) (table : Table) :
    table.render e' = table.render e ∧ e'.depth = e.depth ∧ e'.toJson = e.toJson := by
  obtain rfl := Expr.eq_norm_of_ofJson_toJson h hfloats
  refine ⟨?_, e.depth_mapScalars Scalar.norm, ?_⟩
  · rw [Table.render, Table.render, Expr.norm, Expr.walk_mapScalars table Scalar.sql_norm]
  · rw [toJson, toJson, Expr.norm, Expr.writeJson_mapScalars Scalar.writeJson_norm]

/-- An unsigned integer comes back signed, as another tree, and an error that quotes its text stays
the same. -/
theorem Expr.render_of_json_unsigned :
    Expr.ofJson (Expr.eq (.value (.float (.finite false .fiveHalves))) (.value (.uint 5))).toJson =
        .ok (.eq (.value (.float (.finite false .fiveHalves))) (.value (.int 5))) ∧
      AllReadBack (Expr.eq (.value (.float (.finite false .fiveHalves)))
        (.value (.uint 5))).floats ∧
      (Expr.eq (.value (.float (.finite false .fiveHalves))) (.value (.int 5))).same
        (.eq (.value (.float (.finite false .fiveHalves))) (.value (.uint 5))) = false ∧
      (Table.shared.insert .equals (.custom fun l r => .error (.other (l ++ "=" ++ r)))).render
        (.eq (.value (.float (.finite false .fiveHalves))) (.value (.int 5))) =
          .error (.other "2.5=5") := by
  have hfloats : AllReadBack (Expr.eq (.value (.float (.finite false .fiveHalves)))
      (.value (.uint 5))).floats :=
    List.forall_mem_singleton.mpr (Binary64.readsBack_fiveHalves false)
  have hread : Expr.ofJson (Expr.eq (.value (.float (.finite false .fiveHalves)))
      (.value (.uint 5))).toJson =
        .ok (.eq (.value (.float (.finite false .fiveHalves))) (.value (.int 5))) :=
    Expr.ofJson_toJson_of_flaw? hfloats (by decide +kernel)
  have hsame := (Expr.render_of_json hread hfloats
    (Table.shared.insert .equals (.custom fun l r => .error (.other (l ++ "=" ++ r))))).1
  exact ⟨hread, hfloats, rfl, hsame.trans (by decide +kernel)⟩

end SqlFilter
