import SqlFilter.Proofs.Json.Grammar
import SqlFilter.Json.Reader
import Mathlib.Tactic

set_option autoImplicit false

/-! # Strings in any spelling

However a string is spelled, it is read as the string (`run_spells`). A string that is only walked
over is followed to its end, whatever it stands for (`run_stringBody`).
-/

namespace SqlFilter.Json

theorem IsHexDigit.hexValue? {c : Char} {value : Nat} (h : IsHexDigit c value) :
    hexValue? c = some value ∧ c.utf8Size = 1 := by
  obtain ⟨hlt, h⟩ := h
  interval_cases value <;>
  · rcases h with rfl | rfl
    · exact ⟨rfl, rfl⟩
    · exact ⟨rfl, rfl⟩

namespace TextScan

variable (checked : Bool) (high : Option Nat) (before : List Char)

/-- One of the first three digits of an escape. -/
theorem step_digit {bytes : Nat} (hbytes : bytes < 3) (value : Nat) {c : Char} {x : Nat}
    (h : IsHexDigit c x) :
    (⟨.unit high bytes value true, before⟩ : TextScan).step checked c =
      .more ⟨.unit high (bytes + 1) (16 * value + x) true, before⟩ := by
  obtain ⟨hvalue, hsize⟩ := h.hexValue?
  have hlt : bytes + 1 < 4 := by omega
  simp only [step, hvalue, hsize, if_pos hlt]
  rfl

/-- The last digit of an escape. -/
theorem step_lastDigit (value : Nat) {c : Char} {x : Nat} (h : IsHexDigit c x) :
    (⟨.unit high 3 value true, before⟩ : TextScan).step checked c =
      (⟨.plain, before⟩ : TextScan).closeUnit checked high (16 * value + x) := by
  obtain ⟨hvalue, hsize⟩ := h.hexValue?
  have hnot : ¬ 3 + 1 < 4 := by omega
  simp only [step, hvalue, hsize, if_neg hnot]
  rfl

theorem step_raw {c : Char} (h : IsRaw c) :
    (⟨.plain, before⟩ : TextScan).step checked c = .more ⟨.plain, c :: before⟩ := by
  obtain ⟨hcontrol, hquote, hbackslash⟩ := h
  simp only [step, if_neg hquote, if_neg hbackslash, if_neg hcontrol]
  rfl

theorem step_short {letter c : Char} (h : (letter, c) ∈ shortEscapes) :
    (⟨.escape, before⟩ : TextScan).step checked letter = .more ⟨.plain, c :: before⟩ := by
  have hletter : ∀ pair ∈ shortEscapes, pair.1 ≠ 'u' ∧ shortEscape? pair.1 = some pair.2 := by
    decide
  obtain ⟨hne, hshort⟩ := hletter _ h
  simp only [step, if_neg hne, hshort]
  rfl

/-- A unit that is no surrogate is a character. -/
theorem closeUnit_char (c : Char) :
    (⟨.plain, before⟩ : TextScan).closeUnit true none c.toNat = .more ⟨.plain, c :: before⟩ := by
  have hvalid : c.toNat < 0xD800 ∨ 0xDFFF < c.toNat := by
    rcases c.valid with hlow | ⟨hhigh, -⟩
    · exact .inl hlow
    · exact .inr hhigh
  have hlow : isLow c.toNat = false := decide_eq_false (by omega)
  have hhigh : isHigh c.toNat = false := decide_eq_false (by omega)
  rw [closeUnit, if_pos rfl, hlow, hhigh, Char.ofNat_toNat]
  rfl

/-- A high surrogate waits for a low one. -/
theorem closeUnit_high {x : Nat} (hx : x < 0x400) :
    (⟨.plain, before⟩ : TextScan).closeUnit true none (0xD800 + x) =
      .more ⟨.pair (0xD800 + x), before⟩ := by
  have hlow : isLow (0xD800 + x) = false := decide_eq_false (by omega)
  have hhigh : isHigh (0xD800 + x) = true := decide_eq_true (by omega)
  rw [closeUnit, if_pos rfl, hlow, hhigh]
  rfl

/-- A pair of surrogates is a character. -/
theorem closeUnit_low {x y : Nat} (hy : y < 0x400) {c : Char}
    (hc : c.toNat = 0x10000 + 0x400 * x + y) :
    (⟨.plain, before⟩ : TextScan).closeUnit true (some (0xD800 + x)) (0xDC00 + y) =
      .more ⟨.plain, c :: before⟩ := by
  have hlow : isLow (0xDC00 + y) = true := decide_eq_true (by omega)
  have hcode : 0x10000 + (0xD800 + x - 0xD800) * 0x400 + (0xDC00 + y - 0xDC00) = c.toNat := by
    omega
  rw [closeUnit, if_pos rfl, hlow, pairChar, hcode, Char.ofNat_toNat]
  rfl

end TextScan

variable {ρ : Type}

section Run

variable (use : TextUse ρ) (before : List Char) {rest : List Char}

theorem run_text_cons {scan next : TextScan} {c : Char}
    (h : scan.step use.isChecked c = .more next) :
    (State.at (.text scan use)).run (c :: rest) = (State.at (.text next use)).run rest := by
  have hstep : (State.at (.text scan use)).step c = .at (.text next use) := by
    rw [State.step, Stage.step, h]
  rw [State.run_cons, hstep]

theorem run_raw {c : Char} (h : IsRaw c) :
    (State.at (.text ⟨.plain, before⟩ use)).run (c :: rest) =
      (State.at (.text ⟨.plain, c :: before⟩ use)).run rest :=
  run_text_cons use (TextScan.step_raw _ before h)

theorem run_short {letter c : Char} (h : (letter, c) ∈ shortEscapes) :
    (State.at (.text ⟨.plain, before⟩ use)).run ('\\' :: letter :: rest) =
      (State.at (.text ⟨.plain, c :: before⟩ use)).run rest :=
  run_text_cons use (TextScan.step_short _ before h)

/-- Four hexadecimal digits are read as their value. -/
theorem run_unit (high : Option Nat) {digits : List Char} {value : Nat} (h : IsUnit digits value)
    {next : TextScan}
    (hclose : (⟨.plain, before⟩ : TextScan).closeUnit use.isChecked high value = .more next) :
    (State.at (.text ⟨.unit high 0 0 true, before⟩ use)).run (digits ++ rest) =
      (State.at (.text next use)).run rest := by
  cases h with
  | @mk a b c d x y z w ha hb hc hd =>
      have hvalue : 16 * (16 * (16 * (16 * 0 + x) + y) + z) + w =
          0x1000 * x + 0x100 * y + 0x10 * z + w := by
        omega
      have hlast : (⟨.unit high 3 (16 * (16 * (16 * 0 + x) + y) + z) true, before⟩ :
          TextScan).step use.isChecked d = .more next := by
        rw [TextScan.step_lastDigit _ high before _ hd, hvalue, hclose]
      rw [List.cons_append, List.cons_append, List.cons_append, List.cons_append, List.nil_append,
        run_text_cons use (TextScan.step_digit _ high before (by decide) _ ha),
        run_text_cons use (TextScan.step_digit _ high before (by decide) _ hb),
        run_text_cons use (TextScan.step_digit _ high before (by decide) _ hc),
        run_text_cons use hlast]

/-- A spelling is read as the characters that it stands for. -/
theorem run_spells (huse : use.isChecked = true) {chars text : List Char} (h : Spells chars text) :
    (State.at (.text ⟨.plain, before⟩ use)).run text =
      .at (.text ⟨.plain, chars.reverse ++ before⟩ use) := by
  induction h generalizing before with
  | nil => rfl
  | raw hraw _ ih => rw [run_raw use before hraw, ih, List.reverse_cons, List.append_cons]
  | short hletter _ ih => rw [run_short use before hletter, ih, List.reverse_cons, List.append_cons]
  | @unit chars text digits c hdigits _ ih =>
      have hclose : (⟨.plain, before⟩ : TextScan).closeUnit use.isChecked none c.toNat =
          .more ⟨.plain, c :: before⟩ := by
        rw [huse, TextScan.closeUnit_char]
      rw [run_text_cons use rfl, run_text_cons use rfl, run_unit use before none hdigits hclose, ih,
        List.reverse_cons, List.append_cons]
  | @pair chars text high low c x y hx hy hhigh hlow hc _ ih =>
      have hfirst : (⟨.plain, before⟩ : TextScan).closeUnit use.isChecked none (0xD800 + x) =
          .more ⟨.pair (0xD800 + x), before⟩ := by
        rw [huse, TextScan.closeUnit_high before hx]
      have hsecond : (⟨.plain, before⟩ : TextScan).closeUnit use.isChecked (some (0xD800 + x))
          (0xDC00 + y) = .more ⟨.plain, c :: before⟩ := by
        rw [huse, TextScan.closeUnit_low before hy hc]
      rw [run_text_cons use rfl, run_text_cons use rfl, run_unit use before none hhigh hfirst,
        run_text_cons use rfl, run_text_cons use rfl, run_unit use before _ hlow hsecond, ih,
        List.reverse_cons, List.append_cons]

/-- Where surrogates need no partners, every string is followed to its end. -/
theorem run_stringBody (huse : use.isChecked = false) {text : List Char} (h : IsStringBody text) :
    ∃ after, (State.at (.text ⟨.plain, before⟩ use)).run text =
      .at (.text ⟨.plain, after⟩ use) := by
  induction h generalizing before with
  | nil => exact ⟨before, rfl⟩
  | raw hraw _ ih =>
      rw [run_raw use before hraw]
      exact ih _
  | short hletter _ ih =>
      rw [run_short use before hletter]
      exact ih _
  | @unit text digits value hdigits _ ih =>
      have hclose : (⟨.plain, before⟩ : TextScan).closeUnit use.isChecked none value =
          .more ⟨.plain, before⟩ := by
        rw [huse]
        rfl
      rw [run_text_cons use rfl, run_text_cons use rfl, run_unit use before none hdigits hclose]
      exact ih before

end Run

end SqlFilter.Json
