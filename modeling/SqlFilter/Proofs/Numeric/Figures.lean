import Mathlib.Data.List.TakeWhile
import SqlFilter.Numeric.Notation
import SqlFilter.Proofs.Numeric.Nearest

set_option autoImplicit false

/-! # Figures of a decimal number

`Nat.toDigits 10` writes a whole number without zeros in front (`isWhole_toDigits`), and the figures
of a decimal number are those digits without the zeros at the end. Taking the zeros off does not
change the nearest double, because the power of ten makes up for them.
-/

namespace SqlFilter

/-! ## Whole numbers -/

/-- Decimal digits with no zero in front of others. -/
structure IsWhole (digits : List Char) : Prop where
  ne_nil : digits ≠ []
  isDigit : ∀ c ∈ digits, c.isDigit = true
  zero_of_head : digits.head? = some '0' → digits = ['0']

theorem head?_toDigits_ne_zero {n : Nat} (h : n ≠ 0) : (Nat.toDigits 10 n).head? ≠ some '0' := by
  induction n using Nat.strong_induction_on with
  | _ n ih =>
      rw [Nat.toDigits_eq_if (by decide)]
      split
      · simpa using h
      · rw [List.head?_append_of_ne_nil _ Nat.toDigits_ne_nil]
        exact ih (n / 10) (by omega) (by omega)

/-- A whole number is written without zeros in front. -/
theorem isWhole_toDigits (n : Nat) : IsWhole (Nat.toDigits 10 n) where
  ne_nil := Nat.toDigits_ne_nil
  isDigit := fun _ hc => Nat.isDigit_of_mem_toDigits (by decide) (by decide) hc
  zero_of_head := by
    intro h
    by_cases hn : n = 0
    · rw [hn]
      rfl
    · exact absurd h (head?_toDigits_ne_zero hn)

/-- An integer is written as a whole number, with a sign if it is below zero. -/
theorem toList_toString_int (n : Int) :
    (toString n).toList = Binary64.signed (decide (n < 0)) (Nat.toDigits 10 n.natAbs) := by
  rw [Int.toString_eq_repr, Int.repr_eq_if]
  split
  · next hsign =>
      have hnatAbs : n.natAbs = n.toNat := by omega
      rw [decide_eq_false (by omega), Nat.toList_repr, hnatAbs]
      rfl
  · next hsign =>
      have hnatAbs : n.natAbs = (-n).toNat := by omega
      rw [decide_eq_true (by omega), String.toList_append, Nat.toList_repr, hnatAbs]
      rfl

/-- Zeros behind a whole number leave no zero in front, unless the number is zero. -/
theorem IsWhole.append {digits : List Char} (h : IsWhole digits) (hne : digits ≠ ['0'])
    {more : List Char} (hmore : ∀ c ∈ more, c.isDigit = true) : IsWhole (digits ++ more) where
  ne_nil := fun hnil => h.ne_nil (List.append_eq_nil_iff.mp hnil).1
  isDigit := by
    intro c hc
    rcases List.mem_append.mp hc with hc | hc
    · exact h.isDigit c hc
    · exact hmore c hc
  zero_of_head := by
    intro hhead
    rw [List.head?_append_of_ne_nil _ h.ne_nil] at hhead
    exact absurd (h.zero_of_head hhead) hne

/-- The first digits of a longer whole number are a whole number. -/
theorem IsWhole.take {digits : List Char} (h : IsWhole digits) {n : Nat}
    (hn : n + 1 < digits.length) : IsWhole (digits.take (n + 1)) where
  ne_nil := by
    intro hnil
    have hlen := congrArg List.length hnil
    rw [List.length_take, List.length_nil] at hlen
    omega
  isDigit := fun c hc => h.isDigit c (List.mem_of_mem_take hc)
  zero_of_head := by
    intro hhead
    rw [List.head?_take, if_neg (by omega)] at hhead
    rw [h.zero_of_head hhead, List.length_singleton] at hn
    omega

namespace Figures

/-! ## Positional notation -/

/-- The decimal number with the given figures. -/
def decimal (f : Figures) : Decimal :=
  ⟨Nat.ofDigitChars 10 f.digits 0, f.power + 1 - (f.digits.length : Int)⟩

/-- Digits that end before the point are followed by zeros. -/
theorem plain_of_le {f : Figures} {k : Nat} (hpower : f.power = k)
    (h : f.digits.length ≤ k + 1) :
    f.plain = f.digits ++ List.replicate (k + 1 - f.digits.length) '0' := by
  rw [plain, hpower]
  show pointed _ (f.digits.drop (k + 1)) = _
  rw [List.drop_of_length_le h, List.take_of_length_le h, pointed]

/-- Digits that go on behind the point are cut there. -/
theorem plain_of_lt {f : Figures} {k : Nat} (hpower : f.power = k)
    (h : k + 1 < f.digits.length) :
    f.plain = f.digits.take (k + 1) ++ '.' :: f.digits.drop (k + 1) := by
  have hzeros : k + 1 - f.digits.length = 0 := by omega
  rw [plain, hpower]
  show pointed _ (f.digits.drop (k + 1)) = _
  rw [hzeros, List.replicate_zero, List.append_nil]
  cases hdrop : f.digits.drop (k + 1) with
  | nil =>
      have hlen := congrArg List.length hdrop
      rw [List.length_drop, List.length_nil] at hlen
      omega
  | cons c rest => rfl

/-- Digits behind the point stand after zeros. -/
theorem plain_of_neg {f : Figures} {k : Nat} (hpower : f.power = Int.negSucc k) :
    f.plain = ['0'] ++ '.' :: (List.replicate k '0' ++ f.digits) := by
  rw [plain, hpower]
  rfl

end Figures

namespace Decimal

/-! ## Zeros at the end -/

/-- A text is what is left without the zeros at its end, and those zeros. -/
theorem exists_strip_zeros (all : List Char) :
    ∃ z, all = (all.reverse.dropWhile (· == '0')).reverse ++ List.replicate z '0' := by
  refine ⟨(all.reverse.takeWhile (· == '0')).length, ?_⟩
  have hzeros : all.reverse.takeWhile (· == '0') =
      List.replicate (all.reverse.takeWhile (· == '0')).length '0' := by
    rw [List.eq_replicate_iff]
    exact ⟨rfl, fun c hc => by simpa using List.mem_takeWhile_imp hc⟩
  have hsplit := List.takeWhile_append_dropWhile (p := (· == '0')) (l := all.reverse)
  rw [← List.reverse_replicate, ← hzeros, ← List.reverse_append, hsplit, List.reverse_reverse]

/-- Without the zeros at its end a text does not end in a zero. -/
theorem getLast?_strip_zeros (all : List Char) :
    (all.reverse.dropWhile (· == '0')).reverse.getLast? ≠ some '0' := by
  rw [List.getLast?_reverse]
  intro h
  have hnot := List.head?_dropWhile_not (· == '0') all.reverse
  rw [h] at hnot
  simp at hnot

/-- The figures are the digits without zeros at the end, or a single zero where none are left. -/
theorem figures_cases (d : Decimal) :
    ∃ digits z, Nat.toDigits 10 d.digits = digits ++ List.replicate z '0' ∧
      digits.getLast? ≠ some '0' ∧
      ((digits = [] ∧ d.figures = ⟨['0'], 0⟩) ∨
        (digits ≠ [] ∧ d.figures = ⟨digits, d.exponent + (digits.length + z : Nat) - 1⟩)) := by
  obtain ⟨z, hz⟩ := exists_strip_zeros (Nat.toDigits 10 d.digits)
  refine ⟨_, z, hz, getLast?_strip_zeros _, ?_⟩
  have hlen := congrArg List.length hz
  rw [List.length_append, List.length_replicate] at hlen
  rw [figures, hlen]
  generalize (List.dropWhile (· == '0') (Nat.toDigits 10 d.digits).reverse).reverse = digits
  cases digits with
  | nil => exact .inl ⟨rfl, rfl⟩
  | cons c rest => exact .inr ⟨List.cons_ne_nil c rest, rfl⟩

theorem figures_power_of_zero {d : Decimal} (h : d.figures.digits = ['0']) :
    d.figures.power = 0 := by
  obtain ⟨digits, z, -, hlast, ⟨-, hfig⟩ | ⟨-, hfig⟩⟩ := figures_cases d
  · rw [hfig]
  · rw [hfig] at h
    obtain rfl : digits = ['0'] := h
    exact absurd rfl hlast

/-- Figures are a whole number. -/
theorem isWhole_figures (d : Decimal) : IsWhole d.figures.digits := by
  have hall := isWhole_toDigits d.digits
  obtain ⟨digits, z, hdigits, -, ⟨-, hfig⟩ | ⟨hne, hfig⟩⟩ := figures_cases d
  · rw [hfig]
    exact isWhole_toDigits 0
  · rw [hfig]
    refine ⟨hne, fun c hc => hall.isDigit c (hdigits ▸ List.mem_append_left _ hc), fun hhead => ?_⟩
    -- the digits of the number start like the figures, and so are a single zero
    have hzero : digits ++ List.replicate z '0' = ['0'] := by
      rw [← hdigits]
      refine hall.zero_of_head ?_
      rw [hdigits, List.head?_append_of_ne_nil _ hne]
      exact hhead
    have hlen := congrArg List.length hzero
    have hpos := List.length_pos_of_ne_nil hne
    rw [List.length_append, List.length_replicate, List.length_singleton] at hlen
    obtain rfl : z = 0 := by omega
    simpa using hzero

/-- The nearest double can be told from the figures. -/
theorem nearest?_figures (d : Decimal) : d.figures.decimal.nearest? = d.nearest? := by
  have hvalue : Nat.ofDigitChars 10 (Nat.toDigits 10 d.digits) 0 = d.digits :=
    Nat.ofDigitChars_ten_toDigits
  obtain ⟨digits, z, hdigits, -, ⟨hnil, hfig⟩ | ⟨-, hfig⟩⟩ := figures_cases d
  · rw [hdigits, hnil, List.nil_append, Nat.ofDigitChars_replicate_zero, Nat.mul_zero] at hvalue
    have hzero : d.nearest? = some .zero := by rw [nearest?, if_pos hvalue.symm]
    rw [hzero, hfig]
    rfl
  · rw [hdigits, Nat.ofDigitChars_append, Nat.ofDigitChars_replicate_zero, Nat.mul_comm] at hvalue
    rw [hfig, Figures.decimal]
    obtain ⟨all, exponent⟩ := d
    obtain rfl : _ = all := hvalue
    have hzero := nearest?_mul_ten_pow (Nat.ofDigitChars 10 digits 0) z (exponent + z)
    rw [show exponent + (z : Int) - z = exponent by omega] at hzero
    rw [hzero]
    congr 2
    show exponent + ((digits.length + z : Nat) : Int) - 1 + 1 - digits.length = exponent + z
    omega

end Decimal

end SqlFilter
