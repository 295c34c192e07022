import SqlFilter.Proofs.Json.Grammar

set_option autoImplicit false

/-! # The digits that 64 bits hold

The scan of a number takes its digits as long as 64 bits hold the number that they write, and leaves
the others out. `Holds` says on the text which digits are which. There always is such a part of the
digits (`exists_holds`), and what the scan makes of the digits is its value, with an exponent that
counts the digits on both sides (`Significand.foldl_add`).
-/

namespace SqlFilter.Json

open Binary64 (digitValue)

/-! ## The value of digits -/

theorem digitValue_le {c : Char} (h : c.isDigit = true) : digitValue c ≤ 9 := by
  have hnine : c.toNat ≤ 57 := (Char.isDigit_iff_toNat.mp h).2
  show c.toNat - 48 ≤ 9
  omega

theorem ofDigitChars_lt {digits : List Char} (h : ∀ c ∈ digits, c.isDigit = true) (n : Nat) :
    Nat.ofDigitChars 10 digits n < (n + 1) * 10 ^ digits.length := by
  induction digits generalizing n with
  | nil => simp
  | cons c digits ih =>
      have hc := digitValue_le (h c List.mem_cons_self)
      rw [Nat.ofDigitChars_cons, List.length_cons]
      calc Nat.ofDigitChars 10 digits (10 * n + digitValue c)
          < (10 * n + digitValue c + 1) * 10 ^ digits.length :=
            ih (fun d hd => h d (List.mem_cons_of_mem c hd)) _
        _ ≤ (n + 1) * 10 * 10 ^ digits.length := Nat.mul_le_mul_right _ (by omega)
        _ = (n + 1) * 10 ^ (digits.length + 1) := by ring

/-- More digits make a number greater. -/
theorem le_ofDigitChars (digits : List Char) (n : Nat) : n ≤ Nat.ofDigitChars 10 digits n := by
  induction digits generalizing n with
  | nil => exact Nat.le_refl n
  | cons c digits ih =>
      rw [Nat.ofDigitChars_cons]
      exact Nat.le_trans (by omega) (ih (10 * n + digitValue c))

/-! ## Digits that are held -/

theorem Holds.cons {start : Nat} {c : Char} {digits kept rest : List Char}
    (h : Holds (10 * start + digitValue c) digits kept rest) :
    Holds start (c :: digits) (c :: kept) rest where
  append_eq := congrArg (c :: ·) h.append_eq
  kept_lt := h.kept_lt
  le_head := h.le_head

/-- There is always a part of the digits that 64 bits hold. -/
theorem exists_holds (digits : List Char) {start : Nat} (h : start < 2 ^ 64) :
    ∃ kept rest, Holds start digits kept rest := by
  induction digits generalizing start with
  | nil => exact ⟨[], [], rfl, h, by simp⟩
  | cons c digits ih =>
      by_cases hfits : 10 * start + digitValue c < 2 ^ 64
      · obtain ⟨kept, rest, hholds⟩ := ih hfits
        exact ⟨c :: kept, rest, hholds.cons⟩
      · refine ⟨[], c :: digits, rfl, h, fun d hd => ?_⟩
        obtain rfl : c = d := Option.some.inj hd
        exact Nat.not_lt.mp hfits

/-- All digits are held exactly if the number fits. -/
theorem Holds.rest_eq_nil_iff {start : Nat} {digits kept rest : List Char}
    (h : Holds start digits kept rest) :
    rest = [] ↔ Nat.ofDigitChars 10 digits start < 2 ^ 64 := by
  rw [← h.append_eq]
  cases rest with
  | nil =>
      rw [List.append_nil]
      exact iff_of_true rfl h.kept_lt
  | cons c rest =>
      refine iff_of_false (List.cons_ne_nil c rest) (Nat.not_lt.mpr ?_)
      rw [List.append_cons, Nat.ofDigitChars_append]
      exact Nat.le_trans (h.le_head c rfl) (le_ofDigitChars rest _)

/-- A number that fits is held as a whole. -/
theorem holds_of_lt {start : Nat} {digits : List Char}
    (h : Nat.ofDigitChars 10 digits start < 2 ^ 64) : Holds start digits digits [] where
  append_eq := List.append_nil digits
  kept_lt := h
  le_head := fun _ hc => nomatch hc

namespace Significand

/-! ## What the scan makes of digits -/

variable (held left : Int)

theorem add_of_lt {m : Significand} (hfull : m.full = false) {c : Char}
    (h : 10 * m.value + digitValue c < 2 ^ 64) :
    m.add held left c = ⟨10 * m.value + digitValue c, m.exponent + held, false, h⟩ :=
  dif_pos ⟨hfull, h⟩

theorem add_of_not {m : Significand} {c : Char}
    (h : ¬ (m.full = false ∧ 10 * m.value + digitValue c < 2 ^ 64)) :
    m.add held left c = { m with exponent := m.exponent + left, full := true } :=
  dif_neg h

/-- Digits with which the number fits are all held. -/
theorem foldl_add_of_lt {m : Significand} (hfull : m.full = false) {digits : List Char}
    (h : Nat.ofDigitChars 10 digits m.value < 2 ^ 64) :
    digits.foldl (add held left) m =
      ⟨Nat.ofDigitChars 10 digits m.value, m.exponent + digits.length * held, false, h⟩ := by
  induction digits generalizing m with
  | nil =>
      obtain ⟨value, exponent, full, value_lt⟩ := m
      obtain rfl : full = false := hfull
      simp
  | cons c digits ih =>
      have hfits : 10 * m.value + digitValue c < 2 ^ 64 :=
        Nat.lt_of_le_of_lt (le_ofDigitChars digits _) h
      have hexponent : m.exponent + held + digits.length * held =
          m.exponent + (digits.length + 1 : Nat) * held := by
        push_cast
        ring
      have hrest := ih (m := ⟨_, m.exponent + held, false, hfits⟩) rfl h
      rw [List.foldl_cons, add_of_lt held left hfull hfits, hrest]
      simp only [hexponent, List.length_cons]
      rfl

/-- Once a digit was left out the others are left out. -/
theorem foldl_add_of_full (digits : List Char) {m : Significand} (hfull : m.full = true) :
    digits.foldl (add held left) m =
      { m with exponent := m.exponent + digits.length * left } := by
  induction digits generalizing m with
  | nil => simp
  | cons c digits ih =>
      have hadd := add_of_not held left (m := m) (c := c) (by simp [hfull])
      have hexponent : m.exponent + left + digits.length * left =
          m.exponent + (digits.length + 1 : Nat) * left := by
        push_cast
        ring
      rw [List.foldl_cons, hadd, ih rfl, List.length_cons, ← hexponent, hfull]

/-- **The digits of a scan.** Its number is that of the digits that are held, and each digit moves
the exponent. -/
theorem foldl_add {m : Significand} (hfull : m.full = false) {digits kept rest : List Char}
    (h : Holds m.value digits kept rest) :
    (digits.foldl (add held left) m).value = Nat.ofDigitChars 10 kept m.value ∧
      (digits.foldl (add held left) m).exponent =
        m.exponent + kept.length * held + rest.length * left ∧
      (digits.foldl (add held left) m).full = !rest.isEmpty := by
  rw [← h.append_eq, List.foldl_append, foldl_add_of_lt held left hfull h.kept_lt]
  cases rest with
  | nil => exact ⟨rfl, by simp, rfl⟩
  | cons c rest =>
      -- the first of the others does not fit
      have hlarge : 2 ^ 64 ≤ 10 * Nat.ofDigitChars 10 kept m.value + digitValue c := by
        have hhead := h.le_head c rfl
        rwa [Nat.ofDigitChars_append] at hhead
      rw [List.foldl_cons, add_of_not held left fun hfits => Nat.not_lt.mpr hlarge hfits.2,
        foldl_add_of_full held left rest rfl]
      refine ⟨rfl, ?_, rfl⟩
      push_cast [List.length_cons]
      ring

end Significand

end SqlFilter.Json
