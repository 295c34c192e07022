import SqlFilter.Proofs.Json.Acceptance
import SqlFilter.Proofs.Walk.FirstFailure

set_option autoImplicit false

/-! # Integers from JSON to SQL

An integer of 64 bits, signed or unsigned, is read from its decimal literal as itself, and written
back as that literal, in SQL and in JSON (`Operand.reads_integer`). The literal is one of the
numbers of the grammar (`NumberForm.ofInt`), so what it denotes says what is read. It denotes an
integer just for the integers of 64 bits; any other literal denotes a double, or nothing where it is
too large.
-/

namespace SqlFilter

open Json

variable {ρ : Type}

/-! ## The two texts of an integer -/

section Exact

variable {n : Int} (hlow : -2 ^ 63 ≤ n) (hhigh : n < 2 ^ 64)
include hlow hhigh

theorem Scalar.sql_ofInt : (Scalar.ofInt n).sql = toString n := by
  rcases ofInt_cases hlow hhigh with ⟨-, i, hi, rfl⟩ | ⟨-, u, hu, rfl⟩
  · rw [hi]
    rfl
  · rw [hu]
    rfl

theorem Scalar.writeJson_ofInt : (Scalar.ofInt n).writeJson = (toString n).toList := by
  rcases ofInt_cases hlow hhigh with ⟨-, i, hi, rfl⟩ | ⟨-, u, hu, rfl⟩
  · rw [hi]
    rfl
  · rw [hu]
    rfl

end Exact

/-! ## Integers as operands -/

/-- A number that counts as no integer denotes a double with its sign, if it denotes anything. -/
theorem Json.NumberForm.Denotes.eq_float {form : NumberForm} {s : Scalar} (h : form.Denotes s)
    (hother : ¬ form.IsInteger) : ∃ x, s = .float (.finite form.negative x) := by
  cases h with
  | int hinteger => exact absurd hinteger hother
  | uint hinteger => exact absurd hinteger hother
  | float => exact ⟨_, rfl⟩

/-- A literal that denotes a constant is read as that constant, in any place for an operand. -/
theorem Operand.reads_number (hole : OperandHole ρ) (hdepth : hole.depth < nestingLimit)
    {form : NumberForm} {s : Scalar} (hform : form.Denotes s) {value text : List Char}
    (hvalue : Spaced form.text value) (htext : IsVariant "value" value text) :
    Reads (.expecting (.choice (.operand hole))) text none (hole.fill (.value s)) := by
  have hpresents : Operand.Presents 1 (.value s) text := .value (.number hform hvalue) htext
  exact Operand.isAccepted _ hole 1 text hpresents hdepth

/-- A number that is read as nothing is too large. -/
theorem Operand.reads_numberRange (hole : OperandHole ρ) (hdepth : hole.depth < nestingLimit)
    {form : NumberForm} (hform : form.scan.scalar? = none) {value text : List Char}
    (hvalue : Spaced form.text value) (htext : IsVariant "value" value text) :
    Reads (.expecting (.choice (.operand hole))) text none (.malformed .numberRange) := by
  have hnumber := leads_number (.scalar (.value hole)) form
  have haccept : (Slot.scalar (.value hole)).acceptNumber form.scan = .malformed .numberRange := by
    rw [Slot.acceptNumber, hform]
    rfl
  rw [haccept] at hnumber
  exact reads_braced hdepth rfl htext (leads_spaced (skipsSpace_expecting _) hvalue hnumber)
    fun closing _ => State.run_failed _ closing

/-- **Integers stay exact from JSON to SQL.** In any place for an operand, the decimal literal of an
integer of 64 bits is read as that integer, signed if it fits, and the SQL text and the JSON text of
what has been read are the literal again. The literal of any other integer is read as a double with
its sign, or refused as out of range. -/
theorem Operand.reads_integer (table : Table) (hole : OperandHole ρ)
    (hdepth : hole.depth < nestingLimit) (n : Int) (value text : List Char)
    (hvalue : Spaced (toString n).toList value) (htext : IsVariant "value" value text) :
    (-2 ^ 63 ≤ n ∧ n < 2 ^ 64 → ∃ s : Scalar,
      Reads (.expecting (.choice (.operand hole))) text none (hole.fill (.value s)) ∧
      ((n < 2 ^ 63 ∧ ∃ i : Int64, s = .int i ∧ i.toInt = n) ∨
        (2 ^ 63 ≤ n ∧ ∃ u : UInt64, s = .uint u ∧ (u.toNat : Int) = n)) ∧
      table.renderOperand (.value s) = .ok (toString n) ∧
      s.writeJson = (toString n).toList) ∧
    (¬ (-2 ^ 63 ≤ n ∧ n < 2 ^ 64) →
      (∃ x : Magnitude, Reads (.expecting (.choice (.operand hole))) text none
        (hole.fill (.value (.float (.finite (decide (n < 0)) x))))) ∨
      Reads (.expecting (.choice (.operand hole))) text none (.malformed .numberRange)) := by
  rw [← NumberForm.text_ofInt] at hvalue
  constructor
  · rintro ⟨hlow, hhigh⟩
    have hread := reads_number hole hdepth (NumberForm.denotes_ofInt hlow hhigh) hvalue htext
    have hsql : table.renderOperand (.value (Scalar.ofInt n)) = .ok (toString n) := by
      rw [Table.renderOperand_value, Scalar.sql_ofInt hlow hhigh]
    exact ⟨Scalar.ofInt n, hread, Scalar.ofInt_cases hlow hhigh, hsql,
      Scalar.writeJson_ofInt hlow hhigh⟩
  · intro hother
    rw [← NumberForm.isInteger_ofInt] at hother
    cases hscalar : (NumberForm.ofInt n).scan.scalar? with
    | some s =>
        have hform := (NumberForm.ofInt n).denotes_of_scalar? hscalar
        obtain ⟨x, rfl⟩ := hform.eq_float hother
        exact .inl ⟨x, reads_number hole hdepth hform hvalue htext⟩
    | none => exact .inr (reads_numberRange hole hdepth hscalar hvalue htext)

/-- The largest unsigned integer, and an integer beyond the doubles, each as a whole document. -/
theorem Operand.reads_integer_ends :
    (∃ u : UInt64, u.toNat = 2 ^ 64 - 1 ∧
      Operand.ofJson "\x7b\"value\":18446744073709551615\x7d" = .ok (.value (.uint u)) ∧
      Table.shared.renderOperand (.value (.uint u)) = .ok "18446744073709551615") ∧
    Operand.ofJson
      (String.ofList (object [member "value" (toString (10 ^ 200 * 10 ^ 200 : Int)).toList])) =
        .error (.malformed .numberRange) := by
  -- a document is the text of an operand in the place of the whole
  have hread (n : Int) := reads_integer .shared (.document id) (by decide) n _ _ (Spaced.self _)
    (isVariant_object "value" (toString n).toList)
  constructor
  · obtain ⟨s, htext, hvalue, hsql, -⟩ := (hread (2 ^ 64 - 1)).1 (by decide)
    rcases hvalue with ⟨hsmall, -⟩ | ⟨-, u, rfl, hu⟩
    · exact absurd hsmall (by decide)
    · exact ⟨u, by omega, State.read_of_reads htext, hsql⟩
  · have hlarge : (NumberForm.ofInt (10 ^ 200 * 10 ^ 200)).scan.scalar? = none := by
      decide +kernel
    rcases (hread (10 ^ 200 * 10 ^ 200)).2 (by decide) with ⟨x, htext⟩ | htext
    · have hrange := reads_numberRange (.document id) (by decide) hlarge (Spaced.self _)
        (isVariant_object "value" _)
      rw [NumberForm.text_ofInt] at hrange
      cases htext.symm.trans hrange
    · exact State.read_of_reads htext

end SqlFilter
