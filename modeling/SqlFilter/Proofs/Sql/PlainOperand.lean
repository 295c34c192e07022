import SqlFilter.Query.Build
import SqlFilter.Proofs.Numeric.Figures
import SqlFilter.Proofs.Sql.RangeGrammar

set_option autoImplicit false

/-! # Plain operands of ranges

A range node reads the text of its right operand, whatever that operand is. A column, a constant or
an absent operand never has the text of a boundary, whatever name or string it holds. Two rules that
know nothing of each other see to it: a text that holds the separator holds a space, and a column
whose name holds a space is written in quotes, as every string is. The other constants are written
with letters, digits, signs and points only (`Scalar.isBare_of_mem_sql`).
-/

namespace SqlFilter

/-! ## The characters of constants -/

/-- A character that constants other than strings are written with. -/
def IsBare (c : Char) : Prop :=
  c.isAlphanum = true ∨ c = '-' ∨ c = '.'

instance (c : Char) : Decidable (IsBare c) :=
  inferInstanceAs (Decidable (_ ∨ _ ∨ _))

theorem isBare_of_all {text : List Char} (h : text.all (decide <| IsBare ·) = true) :
    ∀ c ∈ text, IsBare c :=
  fun c hc => of_decide_eq_true (List.all_eq_true.mp h c hc)

theorem isBare_of_isDigit {c : Char} (h : c.isDigit = true) : IsBare c := by
  refine .inl ?_
  rw [Char.isAlphanum, h, Bool.or_true]

theorem isBare_of_mem_toDigits {n : Nat} : ∀ c ∈ Nat.toDigits 10 n, IsBare c :=
  fun c hc => isBare_of_isDigit ((isWhole_toDigits n).isDigit c hc)

/-- Positional notation adds zeros and a point to the figures. -/
theorem Figures.mem_plain {f : Figures} {c : Char} (h : c ∈ f.plain) :
    c ∈ f.digits ∨ c = '0' ∨ c = '.' := by
  cases hpower : f.power with
  | ofNat k =>
      by_cases hlong : f.digits.length ≤ k + 1
      · rw [plain_of_le hpower hlong, List.mem_append, List.mem_replicate] at h
        exact h.imp id fun hzero => .inl hzero.2
      · rw [plain_of_lt hpower (Nat.lt_of_not_le hlong), List.mem_append, List.mem_cons] at h
        rcases h with hwhole | hpoint | hfraction
        · exact .inl (List.mem_of_mem_take hwhole)
        · exact .inr (.inr hpoint)
        · exact .inl (List.mem_of_mem_drop hfraction)
  | negSucc k =>
      rw [plain_of_neg hpower, List.mem_append, List.mem_singleton, List.mem_cons, List.mem_append,
        List.mem_replicate] at h
      rcases h with hzero | hpoint | hzeros | hdigit
      · exact .inr (.inl hzero)
      · exact .inr (.inr hpoint)
      · exact .inr (.inl hzeros.2)
      · exact .inl hdigit

namespace Binary64

theorem isBare_of_mem_signed {negative : Bool} {text : List Char} (h : ∀ c ∈ text, IsBare c) :
    ∀ c ∈ signed negative text, IsBare c := by
  cases negative with
  | false => exact h
  | true => exact List.forall_mem_cons.mpr ⟨by decide, h⟩

/-- A double is written without spaces, quotes and brackets. -/
theorem isBare_of_mem_plainText (x : Binary64) : ∀ c ∈ x.plainText.toList, IsBare c := by
  cases x with
  | nan => exact isBare_of_all rfl
  | infinite negative => cases negative <;> exact isBare_of_all rfl
  | finite negative magnitude =>
      rw [plainText, String.toList_ofList]
      refine isBare_of_mem_signed fun c hc => ?_
      rcases Figures.mem_plain hc with hdigit | rfl | rfl
      · exact isBare_of_isDigit ((Decimal.isWhole_figures _).isDigit c hdigit)
      · decide
      · decide

end Binary64

/-- An integer is written with digits and a sign. -/
theorem isBare_of_mem_toString (n : Int) : ∀ c ∈ (toString n).toList, IsBare c := by
  rw [toList_toString_int]
  exact Binary64.isBare_of_mem_signed isBare_of_mem_toDigits

/-- A constant other than a string is written without spaces, quotes and brackets. -/
theorem Scalar.isBare_of_mem_sql {scalar : Scalar} (h : ∀ value, scalar ≠ .string value) :
    ∀ c ∈ scalar.sql.toList, IsBare c := by
  cases scalar with
  | bool value => cases value <;> exact isBare_of_all rfl
  | int value => exact isBare_of_mem_toString value.toInt
  | uint value =>
      show ∀ c ∈ (toString value.toNat).toList, IsBare c
      rw [Nat.toString_eq_repr, Nat.toList_repr]
      exact isBare_of_mem_toDigits
  | float value => exact value.isBare_of_mem_plainText
  | string value => exact absurd rfl (h value)

/-! ## Texts that are no boundaries -/

namespace Boundary

/-- The text of a boundary begins with a bracket. -/
theorem Writes.head?_eq {b : Boundary} {text : String} (h : b.Writes text) :
    text.toList.head? = some (opening b.inclusive) := by
  obtain ⟨rfl, -⟩ := writes_iff.mp h
  rw [toList_text]
  rfl

/-- The text of a boundary holds a space. -/
theorem Writes.space_mem {b : Boundary} {text : String} (h : b.Writes text) :
    ' ' ∈ text.toList := by
  obtain ⟨rfl, -⟩ := writes_iff.mp h
  rw [toList_text]
  simp

/-- A text in quotes is no boundary. -/
theorem not_writes_of_quoted {quote : Char} (hquote : quote = '"' ∨ quote = '\'') {text : String}
    (h : text.toList.head? = some quote) (b : Boundary) : ¬ b.Writes text := by
  intro hb
  have hopening := Option.some.inj (h.symm.trans hb.head?_eq)
  revert hopening
  rcases hquote with rfl | rfl <;> cases b.inclusive <;> decide

end Boundary

/-- No column is written like a boundary. -/
theorem Column.not_writes_sql (column : Column) (b : Boundary) : ¬ b.Writes column.sql := by
  rw [sql]
  split
  · exact Boundary.not_writes_of_quoted (.inl rfl) (by simp) b
  · next hspace =>
      intro hb
      exact hspace (List.contains_iff_mem.mpr hb.space_mem)

/-- No constant is written like a boundary. -/
theorem Scalar.not_writes_sql (scalar : Scalar) (b : Boundary) : ¬ b.Writes scalar.sql := by
  by_cases hstring : ∃ value, scalar = .string value
  · obtain ⟨value, rfl⟩ := hstring
    exact Boundary.not_writes_of_quoted (.inr rfl) (by simp [sql]) b
  · intro hb
    have hspace := isBare_of_mem_sql (fun value h => hstring ⟨value, h⟩) ' ' hb.space_mem
    exact absurd hspace (by decide)

/-! ## Range nodes with a plain operand -/

/-- Nothing, a column or a constant. -/
def Operand.IsPlain : Operand → Prop
  | .absent | .column _ | .value _ => True
  | .expr _ | .list _ | .range _ => False

namespace Table

/-- A plain operand always has a text, and never that of a boundary. -/
theorem renderOperand_of_isPlain (table : Table) {operand : Operand} (h : operand.IsPlain) :
    ∃ text, table.renderOperand operand = .ok text ∧ ∀ b : Boundary, ¬ b.Writes text := by
  cases operand with
  | absent =>
      refine ⟨"", renderOperand_absent table, fun b hb => ?_⟩
      exact absurd hb.space_mem (by decide)
  | column column => exact ⟨column.sql, renderOperand_column table column, column.not_writes_sql⟩
  | value scalar => exact ⟨scalar.sql, renderOperand_value table scalar, scalar.not_writes_sql⟩
  | expr _ | list _ | range _ => exact absurd h id

/-- **A plain operand never passes for a boundary.** Where ranges have their usual rule, a range
node with a plain operand on the right fails with just the text of that operand, whatever names and
strings stand in it. So a text that writes a boundary comes from a boundary, a tree or a list. -/
theorem render_range_plain (table : Table) (left : Operand) (l : String)
    (hrule : table.rule? .range = some .range) (hleft : table.renderOperand left = .ok l) :
    (∀ right : Operand, right.IsPlain → ∃ text, table.renderOperand right = .ok text ∧
      table.render (.node .range left right) = .error (.malformedRange text)) ∧
    (∀ (right : Operand) (text : String) (b : Boundary), table.renderOperand right = .ok text →
      b.Writes text → (∃ b', right = .range b') ∨ (∃ tree, right = .expr tree) ∨
        ∃ items, right = .list items) := by
  constructor
  · intro right hplain
    obtain ⟨text, htext, hnot⟩ := renderOperand_of_isPlain table hplain
    have hread : Boundary.ofText? text = none := by
      rw [Option.eq_none_iff_forall_ne_some]
      intro read hsome
      obtain ⟨b, hb, -⟩ := Boundary.ofText?_eq_some_iff.mp hsome
      exact hnot b hb
    refine ⟨text, htext, ?_⟩
    rw [render_node, hleft, htext]
    show (table.close .range l text).outcome = _
    rw [outcome_close_some table hrule, Rule.apply, hread]
  · intro right text b htext hb
    have hnot : ¬ right.IsPlain := by
      intro hplain
      obtain ⟨text', htext', hnot⟩ := renderOperand_of_isPlain table hplain
      obtain rfl := Except.ok.inj (htext.symm.trans htext')
      exact hnot b hb
    cases right with
    | range boundary => exact .inl ⟨boundary, rfl⟩
    | expr tree => exact .inr (.inl ⟨tree, rfl⟩)
    | list items => exact .inr (.inr ⟨items, rfl⟩)
    | absent | column _ | value _ => exact absurd trivial hnot

/-- A column and a string that are named like a boundary are written in quotes. -/
theorem render_range_plain_named :
    shared.rule? .range = some .range ∧ shared.renderOperand (.column ⟨"n"⟩) = .ok "n" ∧
    shared.render (.node .range (.column ⟨"n"⟩) (.column ⟨"[1, 5]"⟩)) =
      .error (.malformedRange "\"[1, 5]\"") ∧
    shared.render (.node .range (.column ⟨"n"⟩) (.value (.string "[1, 5]"))) =
      .error (.malformedRange "'[1, 5]'") := by
  have hplain := (render_range_plain shared (.column ⟨"n"⟩) "n" rfl rfl).1
  obtain ⟨column, hcolumn, hrender⟩ := hplain (.column ⟨"[1, 5]"⟩) trivial
  obtain ⟨string, hstring, hrender'⟩ := hplain (.value (.string "[1, 5]")) trivial
  obtain rfl := Except.ok.inj hcolumn
  obtain rfl := Except.ok.inj hstring
  exact ⟨rfl, rfl, hrender, hrender'⟩

end Table

end SqlFilter
