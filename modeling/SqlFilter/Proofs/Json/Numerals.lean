import SqlFilter.Proofs.Json.NumberText
import Mathlib.Tactic

set_option autoImplicit false

/-! # The numbers of the grammar

The scan of numbers and the grammar agree (`isNumberText_iff`). However a number is written, it is
scanned from its first character to its last and read as what it denotes. And the scan takes nothing
else: `NumberScan.Begins` says what may have been read at each part of a number, one character leads
from there to the next part, and where the number may end it is one of the grammar.
-/

namespace SqlFilter.Json

open Binary64 (signed)

/-! ## What the grammar writes is read -/

namespace NumberForm

/-- The scan of the digits in front of a power of ten. -/
def mantissaScan (f : NumberForm) : NumberScan :=
  match f.fraction with
  | none => .ofWhole f.negative f.whole
  | some fraction => .ofFraction f.negative f.whole fraction

/-- The scan of a number. -/
def scan (f : NumberForm) : NumberScan :=
  match f.power with
  | none => f.mantissaScan
  | some p => f.mantissaScan.withExponent p.negative p.digits

variable (f : NumberForm)

theorem ofWhole_isComplete (negative : Bool) (digits : List Char) :
    (NumberScan.ofWhole negative digits).isComplete = true := by
  rw [NumberScan.ofWhole]
  split
  · rfl
  · rfl

theorem mantissaScan_isComplete : f.mantissaScan.isComplete = true := by
  rw [mantissaScan]
  cases f.fraction with
  | none => exact ofWhole_isComplete _ _
  | some fraction => rfl

theorem mantissaScan_part : f.mantissaScan.part ≠ .power := by
  rw [mantissaScan]
  cases f.fraction with
  | none =>
      show (if f.whole = ['0'] then NumberPart.zero else NumberPart.whole) ≠ .power
      split
      · exact NumberPart.noConfusion
      · exact NumberPart.noConfusion
  | some fraction => exact NumberPart.noConfusion

/-- What is read before a power of ten has no exponent yet. -/
theorem mantissaScan_power :
    f.mantissaScan.powerNegative = false ∧ f.mantissaScan.power = 0 := by
  rw [mantissaScan]
  cases f.fraction <;> exact ⟨rfl, rfl⟩

/-- A number is scanned from its first character to its last. -/
theorem ofText?_text : NumberScan.ofText? f.text = some f.scan := by
  have hmantissa : NumberScan.ofText?
      (Binary64.signed f.negative f.whole ++ f.fraction.elim [] ('.' :: ·)) =
        some f.mantissaScan := by
    rw [mantissaScan, NumberScan.ofText?_append (NumberScan.ofText?_whole f.negative f.isWhole)]
    cases hfraction : f.fraction with
    | none => rfl
    | some fraction =>
        obtain ⟨hne, hdigits⟩ := f.isDigits fraction hfraction
        exact NumberScan.feed?_fraction f.negative f.whole hne hdigits
  rw [text, ← List.append_assoc, NumberScan.ofText?_append hmantissa, scan]
  cases f.power with
  | none => rfl
  | some p =>
      exact NumberScan.feed?_power f.mantissaScan_isComplete f.mantissaScan_part
        f.mantissaScan_power.1 f.mantissaScan_power.2 p

theorem scan_isComplete : f.scan.isComplete = true := by
  rw [scan]
  cases f.power with
  | none => exact f.mantissaScan_isComplete
  | some p => rfl

theorem scan_negative : f.scan.negative = f.negative := by
  rw [scan, mantissaScan]
  cases f.power <;> cases f.fraction <;> rfl

theorem scan_significand_eq : f.scan.significand = f.mantissaScan.significand := by
  rw [scan]
  cases f.power with
  | none => rfl
  | some p => rfl

/-- The digits of a scan are those that 64 bits hold. -/
theorem scan_significand {whole wholeRest fraction fractionRest : List Char}
    (hwhole : Holds 0 f.whole whole wholeRest)
    (hfraction : Holds (Nat.ofDigitChars 10 whole 0) (f.fraction.getD []) fraction fractionRest) :
    f.scan.significand.value = Nat.ofDigitChars 10 (whole ++ fraction) 0 ∧
      f.scan.significand.exponent = wholeRest.length - fraction.length := by
  obtain ⟨hvalue, hexponent, -⟩ := Significand.foldl_add 0 1 (m := .zero) rfl hwhole
  have hstart : (f.whole.foldl Significand.addWhole .zero).value = Nat.ofDigitChars 10 whole 0 :=
    hvalue
  rw [scan_significand_eq, mantissaScan, Nat.ofDigitChars_append]
  cases hsome : f.fraction with
  | none =>
      rw [hsome, Option.getD_none] at hfraction
      obtain rfl : fraction = [] := (List.append_eq_nil_iff.mp hfraction.append_eq).1
      refine ⟨hstart, hexponent.trans ?_⟩
      simp [Significand.zero]
  | some digits =>
      rw [hsome, Option.getD_some, ← hstart] at hfraction
      obtain ⟨hvalue', hexponent', -⟩ := Significand.foldl_add (-1) 0
        (m := (f.whole.foldl Significand.addWhole .zero).point) rfl hfraction
      refine ⟨hvalue'.trans (congrArg (Nat.ofDigitChars 10 fraction) hstart), hexponent'.trans ?_⟩
      rw [Significand.point, Significand.addWhole, hexponent]
      simp [Significand.zero, Int.sub_eq_add_neg]

theorem scan_exponent : f.scan.exponent = f.scan.significand.exponent + f.exponent := by
  obtain ⟨hnegative, hpower⟩ := f.mantissaScan_power
  rw [NumberScan.exponent, scan, exponent]
  cases f.power with
  | none =>
      rw [hnegative, hpower]
      rfl
  | some p => rfl

/-- A number is scanned as an integer if it has neither a fraction nor a power of ten and fits 64
bits. -/
theorem scan_isInteger :
    f.scan.isInteger = true ↔ f.fraction = none ∧ f.power = none ∧ f.magnitude < 2 ^ 64 := by
  obtain ⟨kept, rest, hwhole⟩ := exists_holds f.whole (Nat.two_pow_pos 64)
  obtain ⟨-, -, hfull⟩ := Significand.foldl_add 0 1 (m := .zero) rfl hwhole
  have hfits : (NumberScan.ofWhole f.negative f.whole).isInteger = true ↔ f.magnitude < 2 ^ 64 := by
    have hpart : (NumberScan.ofWhole f.negative f.whole).isInteger =
        !(f.whole.foldl Significand.addWhole .zero).full := by
      rw [NumberScan.ofWhole]
      split
      · rfl
      · rfl
    rw [hpart, Significand.addWhole, hfull, Bool.not_not, List.isEmpty_iff, hwhole.rest_eq_nil_iff,
      magnitude]
  rw [scan, mantissaScan]
  cases f.power with
  | none =>
      cases f.fraction with
      | none => simp [hfits]
      | some fraction => exact iff_of_false Bool.false_ne_true (by simp)
  | some p => exact iff_of_false Bool.false_ne_true (by simp)

variable {f}

theorem isInteger_iff_of_negative (hplain : f.fraction = none ∧ f.power = none)
    (hsign : f.negative = true) :
    f.IsInteger ↔ 0 < f.magnitude ∧ f.magnitude ≤ 2 ^ 63 := by
  rw [IsInteger, hsign, if_pos rfl]
  exact ⟨fun h => h.2.2, fun h => ⟨hplain.1, hplain.2, h⟩⟩

theorem isInteger_iff_of_not_negative (hplain : f.fraction = none ∧ f.power = none)
    (hsign : f.negative = false) : f.IsInteger ↔ f.magnitude < 2 ^ 64 := by
  rw [IsInteger, hsign, if_neg Bool.false_ne_true]
  exact ⟨fun h => h.2.2, fun h => ⟨hplain.1, hplain.2, h⟩⟩

/-- The constant of a number that is scanned as an integer. -/
theorem scalar?_of_isInteger (h : f.scan.isInteger = true) :
    f.scan.scalar? =
      if f.negative then
        if 0 < f.magnitude ∧ f.magnitude ≤ 2 ^ 63 then
          some (.int (Int64.ofInt (-(f.magnitude : Int))))
        else f.scan.float?
      else if f.magnitude < 2 ^ 63 then some (.int (Int64.ofInt f.magnitude))
      else some (.uint (UInt64.ofNat f.magnitude)) := by
  obtain ⟨hfraction, -, hlt⟩ := f.scan_isInteger.mp h
  -- nothing is left out of the digits
  have hnone : Holds (Nat.ofDigitChars 10 f.whole 0) (f.fraction.getD []) [] [] := by
    rw [hfraction]
    exact holds_of_lt hlt
  have hvalue : f.scan.significand.value = f.magnitude := by
    rw [(f.scan_significand (holds_of_lt hlt) hnone).1, List.append_nil, magnitude]
  rw [NumberScan.scalar?, if_pos h, f.scan_negative, hvalue]
  rfl

/-- What an integer is read as. -/
theorem IsInteger.scalar? (h : f.IsInteger) :
    f.scan.scalar? = some
      (if f.negative then .int (Int64.ofInt (-(f.magnitude : Int)))
      else if f.magnitude < 2 ^ 63 then .int (Int64.ofInt f.magnitude)
      else .uint (UInt64.ofNat f.magnitude)) := by
  obtain ⟨hfraction, hpower, hfits⟩ := h
  cases hsign : f.negative with
  | true =>
      rw [hsign, if_pos rfl] at hfits
      have hlt : f.magnitude < 2 ^ 64 := by omega
      rw [scalar?_of_isInteger (f.scan_isInteger.mpr ⟨hfraction, hpower, hlt⟩), hsign, if_pos rfl,
        if_pos hfits, if_pos rfl]
  | false =>
      rw [hsign, if_neg Bool.false_ne_true] at hfits
      rw [scalar?_of_isInteger (f.scan_isInteger.mpr ⟨hfraction, hpower, hfits⟩), hsign,
        if_neg Bool.false_ne_true, if_neg Bool.false_ne_true]
      exact (apply_ite some _ _ _).symm

/-- Every other number is read as a double. -/
theorem scalar?_eq_float? (h : ¬ f.IsInteger) : f.scan.scalar? = f.scan.float? := by
  by_cases hinteger : f.scan.isInteger = true
  · -- minus zero, or an integer below the signed ones
    obtain ⟨hfraction, hpower, hlt⟩ := f.scan_isInteger.mp hinteger
    rw [scalar?_of_isInteger hinteger]
    cases hsign : f.negative with
    | true =>
        have hnot := (isInteger_iff_of_negative ⟨hfraction, hpower⟩ hsign).not.mp h
        rw [if_pos rfl, if_neg hnot]
    | false => exact absurd hlt ((isInteger_iff_of_not_negative ⟨hfraction, hpower⟩ hsign).not.mp h)
  · rw [NumberScan.scalar?, if_neg hinteger]

/-- The double of a number, by the digits that 64 bits hold. -/
theorem scan_float? {whole wholeRest fraction fractionRest : List Char}
    (hwhole : Holds 0 f.whole whole wholeRest)
    (hfraction : Holds (Nat.ofDigitChars 10 whole 0) (f.fraction.getD []) fraction fractionRest) :
    f.scan.float? =
      (Magnitude.scaled? (Nat.ofDigitChars 10 (whole ++ fraction) 0)
        (wholeRest.length - fraction.length + f.exponent)).map
          fun x => .float (.finite f.negative x) := by
  obtain ⟨hvalue, hexponent⟩ := f.scan_significand hwhole hfraction
  rw [NumberScan.float?, hvalue, f.scan_exponent, hexponent, f.scan_negative]

/-- A number is read as the constant that it denotes. -/
theorem Denotes.scalar? {s : Scalar} (h : f.Denotes s) : f.scan.scalar? = some s := by
  cases h with
  | @int value hinteger hvalue =>
      have hlt := value.toInt_lt
      rw [hinteger.scalar?]
      cases hsign : f.negative with
      | true =>
          rw [hsign, if_pos rfl] at hvalue
          rw [if_pos rfl, ← hvalue, Int64.ofInt_toInt]
      | false =>
          rw [hsign, if_neg Bool.false_ne_true] at hvalue
          have hsigned : f.magnitude < 2 ^ 63 := by omega
          rw [if_neg Bool.false_ne_true, if_pos hsigned, ← hvalue, Int64.ofInt_toInt]
  | @uint value hinteger hsign hlarge hvalue =>
      have hunsigned : ¬ f.magnitude < 2 ^ 63 := by omega
      rw [hinteger.scalar?, hsign, if_neg Bool.false_ne_true, if_neg hunsigned, ← hvalue,
        UInt64.ofNat_toNat]
  | float hother hwhole hfraction hscaled =>
      rw [scalar?_eq_float? hother, scan_float? hwhole hfraction, hscaled, Option.map_some]

/-- What a number is read as is what it denotes. -/
theorem denotes_of_scalar? {s : Scalar} (h : f.scan.scalar? = some s) : f.Denotes s := by
  by_cases hinteger : f.IsInteger
  · have hfits := hinteger.2.2
    rw [hinteger.scalar?] at h
    obtain rfl := Option.some.inj h
    cases hsign : f.negative with
    | true =>
        rw [hsign, if_pos rfl] at hfits
        refine .int hinteger ?_
        rw [hsign, if_pos rfl]
        exact Int64.toInt_ofInt_of_le (by omega) (by omega)
    | false =>
        rw [hsign, if_neg Bool.false_ne_true] at hfits
        rw [if_neg Bool.false_ne_true]
        split
        · next hsigned =>
            refine .int hinteger ?_
            rw [hsign, if_neg Bool.false_ne_true]
            exact Int64.toInt_ofInt_of_le (by omega) (by omega)
        · next hlarge =>
            have hvalue : (UInt64.ofNat f.magnitude).toNat = f.magnitude :=
              UInt64.toNat_ofNat_of_lt' hfits
            exact .uint hinteger hsign (by omega) hvalue
  · obtain ⟨whole, wholeRest, hwhole⟩ := exists_holds f.whole (Nat.two_pow_pos 64)
    obtain ⟨fraction, fractionRest, hfraction⟩ :=
      exists_holds (f.fraction.getD []) hwhole.kept_lt
    rw [scalar?_eq_float? hinteger, scan_float? hwhole hfraction] at h
    obtain ⟨x, hscaled, rfl⟩ := Option.map_eq_some_iff.mp h
    exact .float hinteger hwhole hfraction hscaled

end NumberForm

/-! ## Nothing else is read -/

theorem isDigits_singleton {c : Char} (h : c.isDigit = true) : IsDigits [c] :=
  ⟨List.cons_ne_nil c [], List.forall_mem_singleton.mpr h⟩

theorem IsDigits.append {digits : List Char} (h : IsDigits digits) {c : Char}
    (hc : c.isDigit = true) : IsDigits (digits ++ [c]) :=
  ⟨List.append_ne_nil_of_left_ne_nil h.1 _,
    List.forall_mem_append.mpr ⟨h.2, List.forall_mem_singleton.mpr hc⟩⟩

theorem isWhole_digit {c : Char} (hc : c.isDigit = true) : IsWhole [c] where
  ne_nil := List.cons_ne_nil c []
  isDigit := List.forall_mem_singleton.mpr hc
  zero_of_head := fun h => congrArg ([·]) (Option.some.inj h)

/-- The text is a number without a power of ten. -/
def IsMantissa (text : List Char) : Prop :=
  ∃ f : NumberForm, f.power = none ∧ f.text = text

theorem isMantissa_whole (negative : Bool) {whole : List Char} (h : IsWhole whole) :
    IsMantissa (signed negative whole) := by
  refine ⟨⟨negative, whole, none, none, h, by simp⟩, rfl, ?_⟩
  rw [NumberForm.text]
  exact List.append_nil _

theorem isMantissa_fraction (negative : Bool) {whole digits : List Char} (h : IsWhole whole)
    (hdigits : IsDigits digits) : IsMantissa (signed negative whole ++ '.' :: digits) := by
  refine ⟨⟨negative, whole, some digits, none, h, by simpa using hdigits⟩, rfl, ?_⟩
  rw [NumberForm.text]
  simp

theorem IsMantissa.exists_form_power {text : List Char} (h : IsMantissa text) (p : PowerForm) :
    ∃ f : NumberForm, f.text = text ++ p.text := by
  obtain ⟨f, hpower, rfl⟩ := h
  refine ⟨{ f with power := some p }, ?_⟩
  rw [NumberForm.text, NumberForm.text, hpower]
  simp

namespace NumberScan

/-- What may have been read when a number has come to the given part. -/
inductive Begins : NumberPart → List Char → Prop where
  | sign : Begins .sign ['-']
  | zero (negative : Bool) : Begins .zero (signed negative ['0'])
  | whole (negative : Bool) {whole : List Char} (h : IsWhole whole) (hne : whole ≠ ['0']) :
      Begins .whole (signed negative whole)
  | point (negative : Bool) {whole : List Char} (h : IsWhole whole) :
      Begins .point (signed negative whole ++ ['.'])
  | fraction (negative : Bool) {whole digits : List Char} (h : IsWhole whole)
      (hdigits : IsDigits digits) : Begins .fraction (signed negative whole ++ '.' :: digits)
  | mark {mantissa : List Char} (h : IsMantissa mantissa) (upper : Bool) :
      Begins .mark (mantissa ++ [if upper then 'E' else 'e'])
  | markSign {mantissa : List Char} (h : IsMantissa mantissa) (upper negative : Bool) :
      Begins .markSign
        (mantissa ++ [if upper then 'E' else 'e', if negative then '-' else '+'])
  | power {mantissa : List Char} (h : IsMantissa mantissa) (p : PowerForm) :
      Begins .power (mantissa ++ p.text)

theorem begins_start {c : Char} (h : c = '-' ∨ c.isDigit = true) : Begins (start c).part [c] := by
  by_cases hsign : c = '-'
  · rw [hsign]
    exact .sign
  · have hdigit : c.isDigit = true := h.resolve_left hsign
    rw [start, if_neg hsign]
    show Begins (if c = '0' then .zero else .whole) [c]
    split
    · next hzero =>
        rw [hzero]
        exact .zero false
    · next hzero => exact .whole false (isWhole_digit hdigit) (by simpa using hzero)

theorem begins_mark {mantissa : List Char} (h : IsMantissa mantissa) {c : Char}
    (hc : isMark c = true) : Begins .mark (mantissa ++ [c]) := by
  rcases (Bool.or_eq_true _ _).mp hc with hc | hc
  · rw [eq_of_beq hc]
    exact .mark h false
  · rw [eq_of_beq hc]
    exact .mark h true

theorem begins_digit_whole (negative : Bool) {whole : List Char} (h : IsWhole whole)
    (hne : whole ≠ ['0']) {c : Char} (hc : c.isDigit = true) :
    Begins .whole (signed negative whole ++ [c]) := by
  have hlonger : IsWhole (whole ++ [c]) := h.append hne (List.forall_mem_singleton.mpr hc)
  have hlong : whole ++ [c] ≠ ['0'] := by
    intro heq
    have hlen := congrArg List.length heq
    have hpos := List.length_pos_of_ne_nil h.ne_nil
    rw [List.length_append, List.length_singleton, List.length_singleton] at hlen
    omega
  rw [← signed_append]
  exact .whole negative hlonger hlong

/-! One more character, for each part that a number may have come to. -/

section Step

variable {s next : NumberScan} {c : Char} (hstep : s.step c = .more next)
include hstep

theorem begins_step_sign (hpart : s.part = .sign) : Begins next.part ['-', c] := by
  simp only [NumberScan.step, hpart] at hstep
  split at hstep
  · next hzero =>
      obtain rfl := NumberStep.more.inj hstep
      rw [hzero]
      exact .zero true
  · split at hstep
    · next hzero hc =>
        obtain rfl := NumberStep.more.inj hstep
        exact .whole true (isWhole_digit hc) (by simpa using hzero)
    · cases hstep

theorem begins_step_zero (hpart : s.part = .zero) (negative : Bool) :
    Begins next.part (signed negative ['0'] ++ [c]) := by
  have hwhole : IsWhole ['0'] := isWhole_toDigits 0
  simp only [NumberScan.step, hpart] at hstep
  split at hstep
  · cases hstep
  · split at hstep
    · next hpoint =>
        obtain rfl := NumberStep.more.inj hstep
        rw [hpoint]
        exact .point negative hwhole
    · split at hstep
      · next hmark =>
          obtain rfl := NumberStep.more.inj hstep
          exact begins_mark (isMantissa_whole negative hwhole) hmark
      · cases hstep

theorem begins_step_whole (hpart : s.part = .whole) (negative : Bool) {whole : List Char}
    (hwhole : IsWhole whole) (hne : whole ≠ ['0']) :
    Begins next.part (signed negative whole ++ [c]) := by
  simp only [NumberScan.step, hpart] at hstep
  split at hstep
  · next hc =>
      obtain rfl := NumberStep.more.inj hstep
      exact begins_digit_whole negative hwhole hne hc
  · split at hstep
    · next hpoint =>
        obtain rfl := NumberStep.more.inj hstep
        rw [hpoint]
        exact .point negative hwhole
    · split at hstep
      · next hmark =>
          obtain rfl := NumberStep.more.inj hstep
          exact begins_mark (isMantissa_whole negative hwhole) hmark
      · cases hstep

theorem begins_step_point (hpart : s.part = .point) (negative : Bool) {whole : List Char}
    (hwhole : IsWhole whole) : Begins next.part (signed negative whole ++ ['.'] ++ [c]) := by
  simp only [NumberScan.step, hpart] at hstep
  split at hstep
  · next hc =>
      obtain rfl := NumberStep.more.inj hstep
      rw [List.append_assoc]
      exact .fraction negative hwhole (isDigits_singleton hc)
  · cases hstep

theorem begins_step_fraction (hpart : s.part = .fraction) (negative : Bool)
    {whole digits : List Char} (hwhole : IsWhole whole) (hdigits : IsDigits digits) :
    Begins next.part (signed negative whole ++ '.' :: digits ++ [c]) := by
  simp only [NumberScan.step, hpart] at hstep
  split at hstep
  · next hc =>
      obtain rfl := NumberStep.more.inj hstep
      rw [List.append_assoc]
      exact .fraction negative hwhole (hdigits.append hc)
  · split at hstep
    · next hmark =>
        obtain rfl := NumberStep.more.inj hstep
        exact begins_mark (isMantissa_fraction negative hwhole hdigits) hmark
    · cases hstep

theorem begins_step_mark (hpart : s.part = .mark) {mantissa : List Char}
    (hmantissa : IsMantissa mantissa) (upper : Bool) :
    Begins next.part (mantissa ++ [if upper then 'E' else 'e'] ++ [c]) := by
  simp only [NumberScan.step, hpart] at hstep
  rw [List.append_assoc]
  split at hstep
  · next hplus =>
      obtain rfl := NumberStep.more.inj hstep
      rw [hplus]
      exact .markSign hmantissa upper false
  · split at hstep
    · next hminus =>
        obtain rfl := NumberStep.more.inj hstep
        rw [hminus]
        exact .markSign hmantissa upper true
    · split at hstep
      · next hc =>
          obtain rfl := NumberStep.more.inj hstep
          exact .power hmantissa ⟨upper, none, [c], isDigits_singleton hc⟩
      · cases hstep

theorem begins_step_markSign (hpart : s.part = .markSign) {mantissa : List Char}
    (hmantissa : IsMantissa mantissa) (upper negative : Bool) :
    Begins next.part
      (mantissa ++ [if upper then 'E' else 'e', if negative then '-' else '+'] ++ [c]) := by
  simp only [NumberScan.step, hpart] at hstep
  split at hstep
  · next hc =>
      obtain rfl := NumberStep.more.inj hstep
      rw [List.append_assoc]
      exact .power hmantissa ⟨upper, some negative, [c], isDigits_singleton hc⟩
  · cases hstep

theorem begins_step_power (hpart : s.part = .power) {mantissa : List Char}
    (hmantissa : IsMantissa mantissa) (p : PowerForm) :
    Begins next.part (mantissa ++ p.text ++ [c]) := by
  simp only [NumberScan.step, hpart] at hstep
  split at hstep
  · next hc =>
      obtain rfl := NumberStep.more.inj hstep
      have htext : (⟨p.upper, p.negative?, p.digits ++ [c], p.isDigits.append hc⟩ :
          PowerForm).text = p.text ++ [c] := by
        simp [PowerForm.text, PowerForm.sign]
      rw [List.append_assoc, ← htext]
      exact .power hmantissa _
  · cases hstep

/-- One more character of a number. -/
theorem Begins.step {text : List Char} (h : Begins s.part text) :
    Begins next.part (text ++ [c]) := by
  generalize hpart : s.part = part at h
  cases h with
  | sign => exact begins_step_sign hstep hpart
  | zero negative => exact begins_step_zero hstep hpart negative
  | whole negative hwhole hne => exact begins_step_whole hstep hpart negative hwhole hne
  | point negative hwhole => exact begins_step_point hstep hpart negative hwhole
  | fraction negative hwhole hdigits =>
      exact begins_step_fraction hstep hpart negative hwhole hdigits
  | mark hmantissa upper => exact begins_step_mark hstep hpart hmantissa upper
  | markSign hmantissa upper negative =>
      exact begins_step_markSign hstep hpart hmantissa upper negative
  | power hmantissa p => exact begins_step_power hstep hpart hmantissa p

end Step

theorem Begins.feed? {s next : NumberScan} {before text : List Char} (h : Begins s.part before)
    (hfeed : s.feed? text = some next) : Begins next.part (before ++ text) := by
  induction text generalizing s before with
  | nil =>
      obtain rfl : s = next := Option.some.inj hfeed
      rw [List.append_nil]
      exact h
  | cons c text ih =>
      rw [NumberScan.feed?] at hfeed
      split at hfeed
      · next after hstep =>
          rw [List.append_cons]
          exact ih (h.step hstep) hfeed
      · cases hfeed
      · cases hfeed

/-- Where a number may end, it is one of the grammar. -/
theorem Begins.exists_form {part : NumberPart} {text : List Char} (h : Begins part text)
    (hcomplete : part = .zero ∨ part = .whole ∨ part = .fraction ∨ part = .power) :
    ∃ f : NumberForm, f.text = text := by
  cases h with
  | zero negative =>
      obtain ⟨f, -, hf⟩ := isMantissa_whole negative (isWhole_toDigits 0)
      exact ⟨f, hf⟩
  | whole negative hwhole hne =>
      obtain ⟨f, -, hf⟩ := isMantissa_whole negative hwhole
      exact ⟨f, hf⟩
  | fraction negative hwhole hdigits =>
      obtain ⟨f, -, hf⟩ := isMantissa_fraction negative hwhole hdigits
      exact ⟨f, hf⟩
  | power hmantissa p => exact hmantissa.exists_form_power p
  | sign => simp at hcomplete
  | point negative hwhole => simp at hcomplete
  | mark hmantissa upper => simp at hcomplete
  | markSign hmantissa upper negative => simp at hcomplete

/-- The scan accepts nothing but the numbers of the grammar. -/
theorem exists_form {text : List Char} {s : NumberScan} (h : ofText? text = some s)
    (hcomplete : s.isComplete = true) : ∃ f : NumberForm, f.text = text ∧ f.scan = s := by
  cases text with
  | nil => cases h
  | cons c rest =>
      have hbegins : Begins s.part (c :: rest) := by
        rw [ofText?] at h
        split at h
        · next hc => exact (begins_start hc).feed? h
        · cases h
      have hpart : s.part = .zero ∨ s.part = .whole ∨ s.part = .fraction ∨ s.part = .power := by
        rw [isComplete] at hcomplete
        cases hpart : s.part <;> simp [hpart] at hcomplete ⊢
      obtain ⟨f, hf⟩ := hbegins.exists_form hpart
      have hscan := f.ofText?_text
      rw [hf, h] at hscan
      exact ⟨f, hf, (Option.some.inj hscan).symm⟩

end NumberScan

/-- **Numbers.** A text is read as a constant exactly if it is a number that denotes the constant. -/
theorem isNumberText_iff {text : List Char} {value : Scalar} :
    IsNumberText text value ↔ ∃ form : NumberForm, form.Denotes value ∧ form.text = text := by
  constructor
  · rintro ⟨s, hread, hcomplete, hvalue⟩
    obtain ⟨form, htext, hscan⟩ := NumberScan.exists_form hread hcomplete
    rw [← hscan] at hvalue
    exact ⟨form, form.denotes_of_scalar? hvalue, htext⟩
  · rintro ⟨form, hform, rfl⟩
    exact ⟨form.scan, form.ofText?_text, form.scan_isComplete, hform.scalar?⟩

end SqlFilter.Json
