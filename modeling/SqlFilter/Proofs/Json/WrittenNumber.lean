import SqlFilter.Json.Writer
import SqlFilter.Proofs.Json.Numerals
import SqlFilter.Proofs.Numeric.Scaled

set_option autoImplicit false

/-! # Numbers that were written

What the writer puts down for a number is a number of the grammar. An integer of 64 bits is read from
its text as itself (`NumberForm.denotes_ofInt`). The text of a finite double always is a number with
a fraction or an exponent, but what it is read as need not be the same double, because the reader
rounds more than once. `Binary64.ReadsBack` says that it is. Doubles with up to 15 digits read back
unless they are very small or very large (`Binary64.readsBack_of_length_le`).
-/

namespace SqlFilter

open Binary64 (signed)

/-! ## Integers -/

namespace Json.NumberForm

/-- The decimal literal of an integer. -/
def ofInt (n : Int) : NumberForm where
  negative := decide (n < 0)
  whole := Nat.toDigits 10 n.natAbs
  fraction := none
  power := none
  isWhole := isWhole_toDigits n.natAbs
  isDigits := fun _ h => nomatch h

theorem text_ofInt (n : Int) : (ofInt n).text = (toString n).toList := by
  rw [toList_toString_int]
  exact List.append_nil _

theorem magnitude_ofInt (n : Int) : (ofInt n).magnitude = n.natAbs :=
  Nat.ofDigitChars_ten_toDigits

/-- A literal counts as an integer if it is one of 64 bits, signed or unsigned. -/
theorem isInteger_ofInt (n : Int) : (ofInt n).IsInteger ↔ -2 ^ 63 ≤ n ∧ n < 2 ^ 64 := by
  by_cases hsign : n < 0
  · rw [isInteger_iff_of_negative ⟨rfl, rfl⟩ (decide_eq_true hsign), magnitude_ofInt]
    omega
  · rw [isInteger_iff_of_not_negative ⟨rfl, rfl⟩ (decide_eq_false hsign), magnitude_ofInt]
    omega

end Json.NumberForm

open Json

/-- The constant for an integer of 64 bits, signed if it fits. -/
def Scalar.ofInt (n : Int) : Scalar :=
  if n < 2 ^ 63 then .int (Int64.ofInt n) else .uint (UInt64.ofNat n.natAbs)

section Exact

variable {n : Int} (hlow : -2 ^ 63 ≤ n) (hhigh : n < 2 ^ 64)
include hlow hhigh

/-- Nothing is cut off an integer, be it signed or unsigned. -/
theorem Scalar.ofInt_cases :
    (n < 2 ^ 63 ∧ ∃ i : Int64, Scalar.ofInt n = .int i ∧ i.toInt = n) ∨
    (2 ^ 63 ≤ n ∧ ∃ u : UInt64, Scalar.ofInt n = .uint u ∧ (u.toNat : Int) = n) := by
  unfold ofInt
  split
  · next hsigned =>
      have hvalue : (Int64.ofInt n).toInt = n := Int64.toInt_ofInt_of_le (by omega) (by omega)
      exact .inl ⟨hsigned, _, rfl, hvalue⟩
  · next hlarge =>
      have hvalue : (UInt64.ofNat n.natAbs).toNat = n.natAbs :=
        UInt64.toNat_ofNat_of_lt' (show n.natAbs < 2 ^ 64 by omega)
      exact .inr ⟨by omega, _, rfl, by omega⟩

/-- The literal of an integer denotes its constant. -/
theorem Json.NumberForm.denotes_ofInt : (NumberForm.ofInt n).Denotes (Scalar.ofInt n) := by
  have hinteger := (NumberForm.isInteger_ofInt n).mpr ⟨hlow, hhigh⟩
  have hmagnitude := NumberForm.magnitude_ofInt n
  rcases Scalar.ofInt_cases hlow hhigh with ⟨-, i, hi, hvalue⟩ | ⟨hlarge, u, hu, hvalue⟩
  · have hsigned : n = if (NumberForm.ofInt n).negative then -(n.natAbs : Int) else n.natAbs := by
      unfold NumberForm.ofInt
      split
      · next hsign =>
          have hbelow : n < 0 := of_decide_eq_true hsign
          omega
      · next hsign =>
          have habove : ¬ n < 0 := fun hbelow => hsign (decide_eq_true hbelow)
          omega
    rw [hi]
    exact .int hinteger (by rwa [hvalue, hmagnitude])
  · rw [hu]
    exact .uint hinteger (decide_eq_false (by omega)) (by omega) (by omega)

theorem Json.isNumberText_ofInt : IsNumberText (toString n).toList (Scalar.ofInt n) :=
  isNumberText_iff.mpr ⟨_, NumberForm.denotes_ofInt hlow hhigh, NumberForm.text_ofInt n⟩

end Exact

namespace Json

/-- A signed integer is read as itself. -/
theorem isNumberText_int (value : Int64) :
    IsNumberText (toString value.toInt).toList (.int value) := by
  have hupper := value.toInt_lt
  have hlower := value.le_toInt
  have hread : IsNumberText _ (Scalar.ofInt value.toInt) := isNumberText_ofInt hlower (by omega)
  rwa [Scalar.ofInt, if_pos hupper, Int64.ofInt_toInt] at hread

/-- An unsigned integer is read as a signed one where it fits. -/
theorem isNumberText_uint (value : UInt64) :
    IsNumberText (toString value.toNat).toList
      (if value.toNat < 2 ^ 63 then .int (Int64.ofInt value.toNat) else .uint value) := by
  have hlt := value.toNat_lt
  have hread : IsNumberText (toString (value.toNat : Int)).toList (Scalar.ofInt value.toNat) :=
    isNumberText_ofInt (by omega) (by omega)
  split
  · next hsigned => rwa [Scalar.ofInt, if_pos (by omega)] at hread
  · next hlarge =>
      rwa [Scalar.ofInt, if_neg (by omega), Int.natAbs_natCast, UInt64.ofNat_toNat] at hread

/-! ## The notation of doubles -/

/-- The form writes the text with its sign. It stands for the decimal number, and for no integer. -/
structure NumberForm.Writes (form : NumberForm) (negative : Bool) (text : List Char) (d : Decimal) :
    Prop where
  text_eq : form.text = signed negative text
  negative_eq : form.negative = negative
  not_isInteger : ¬ form.IsInteger
  decimal_eq : form.decimal = d

/-- A whole part and a fraction. -/
theorem exists_writes_fraction (negative : Bool) {whole fraction : List Char} (h : IsWhole whole)
    (hfraction : IsDigits fraction) :
    ∃ form : NumberForm, form.Writes negative (whole ++ '.' :: fraction)
      ⟨Nat.ofDigitChars 10 (whole ++ fraction) 0, -(fraction.length : Int)⟩ := by
  refine ⟨⟨negative, whole, some fraction, none, h, by simpa using hfraction⟩, ?_, rfl, ?_, ?_⟩
  · rw [NumberForm.text, NumberScan.signed_append, Option.elim_some, Option.elim_none,
      List.append_nil]
  · rintro ⟨hnone, -, -⟩
    cases hnone
  · rw [NumberForm.decimal, NumberForm.exponent, Option.elim_none, Int.zero_sub]
    rfl

/-- A number without a fraction ends in `.0`. Its zeros, and the one behind the point, are digits of
the form. -/
theorem exists_writes_whole (negative : Bool) {f : Figures} (h : IsWhole f.digits)
    (hzero : f.digits = ['0'] → f.power = 0) (hwhole : f.isWhole = true) :
    ∃ (form : NumberForm) (zeros : Nat), f.digits.length + zeros = f.power + 2 ∧
      form.Writes negative (f.plain ++ ['.', '0'])
        ⟨f.decimal.digits * 10 ^ zeros, f.decimal.exponent - zeros⟩ := by
  have hlen := List.length_pos_of_ne_nil h.ne_nil
  have hle : (f.digits.length : Int) ≤ f.power + 1 := of_decide_eq_true hwhole
  obtain ⟨k, hpower⟩ := Int.eq_ofNat_of_zero_le (show 0 ≤ f.power by omega)
  obtain ⟨more, hmore⟩ : ∃ more, f.digits.length + more = k + 1 := ⟨k + 1 - f.digits.length, by omega⟩
  have hzeros : k + 1 - f.digits.length = more := by omega
  have hplain : IsWhole (f.digits ++ List.replicate more '0') := by
    by_cases hdigits : f.digits = ['0']
    · -- a zero stands alone, because its power is the least
      have hnone : more = 0 := by
        have hpower0 := hzero hdigits
        rw [hdigits, List.length_singleton] at hmore
        omega
      rw [hdigits, hnone]
      exact isWhole_toDigits 0
    · refine h.append hdigits fun c hc => ?_
      rw [List.eq_of_mem_replicate hc]
      rfl
  have hdigits : Nat.ofDigitChars 10 (f.digits ++ List.replicate more '0' ++ ['0']) 0 =
      f.decimal.digits * 10 ^ (more + 1) := by
    rw [List.append_assoc, ← List.replicate_succ', Nat.ofDigitChars_append,
      Nat.ofDigitChars_replicate_zero, Nat.mul_comm]
    rfl
  have hfraction : IsDigits ['0'] := ⟨List.cons_ne_nil '0' [], List.forall_mem_singleton.mpr rfl⟩
  obtain ⟨form, hform⟩ := exists_writes_fraction negative hplain hfraction
  refine ⟨form, more + 1, by omega, ?_⟩
  rw [hdigits, List.length_singleton] at hform
  have hexponent : f.decimal.exponent - (more + 1 : Nat) = -(1 : Nat) := by
    show f.power + 1 - (f.digits.length : Int) - (more + 1 : Nat) = -(1 : Nat)
    omega
  rw [Figures.plain_of_le hpower (by omega), hzeros, hexponent]
  exact hform

/-- A number with a fraction is written out. -/
theorem exists_writes_plain (negative : Bool) {f : Figures} (h : IsWhole f.digits)
    (hwhole : f.isWhole = false) :
    ∃ form : NumberForm, form.Writes negative f.plain f.decimal := by
  have hlt : f.power + 1 < (f.digits.length : Int) := by
    have hnot := of_decide_eq_false hwhole
    omega
  rcases hpower : f.power with k | k
  · have hk : k + 1 < f.digits.length := by
      rw [hpower] at hlt
      exact Int.ofNat_lt.mp hlt
    have hdrop : IsDigits (f.digits.drop (k + 1)) := by
      refine ⟨fun hnil => ?_, fun c hc => h.isDigit c (List.mem_of_mem_drop hc)⟩
      have hlen := congrArg List.length hnil
      rw [List.length_drop, List.length_nil] at hlen
      omega
    obtain ⟨form, hform⟩ := exists_writes_fraction negative (h.take hk) hdrop
    rw [List.take_append_drop, ← Figures.plain_of_lt hpower hk, List.length_drop] at hform
    have hdecimal : f.decimal = ⟨Nat.ofDigitChars 10 f.digits 0,
        -((f.digits.length - (k + 1) : Nat) : Int)⟩ := by
      rw [Figures.decimal, hpower]
      congr 1
      show (k : Int) + 1 - f.digits.length = _
      omega
    rw [hdecimal]
    exact ⟨form, hform⟩
  · have hdigits : IsDigits (List.replicate k '0' ++ f.digits) := by
      refine ⟨fun hnil => h.ne_nil (List.append_eq_nil_iff.mp hnil).2, fun c hc => ?_⟩
      rcases List.mem_append.mp hc with hc | hc
      · rw [List.eq_of_mem_replicate hc]
        rfl
      · exact h.isDigit c hc
    -- zeros in front do not count
    have hvalue : Nat.ofDigitChars 10 (['0'] ++ (List.replicate k '0' ++ f.digits)) 0 =
        Nat.ofDigitChars 10 f.digits 0 := by
      rw [← List.append_assoc, ← List.replicate_one, List.replicate_append_replicate,
        Nat.ofDigitChars_append, Nat.ofDigitChars_replicate_zero, Nat.mul_zero]
    obtain ⟨form, hform⟩ := exists_writes_fraction negative (isWhole_toDigits 0) hdigits
    change form.Writes negative (['0'] ++ '.' :: _) ⟨Nat.ofDigitChars 10 (['0'] ++ _) 0, _⟩ at hform
    rw [← Figures.plain_of_neg hpower, hvalue, List.length_append, List.length_replicate] at hform
    have hdecimal : f.decimal = ⟨Nat.ofDigitChars 10 f.digits 0,
        -((k + f.digits.length : Nat) : Int)⟩ := by
      rw [Figures.decimal, hpower]
      congr 1
      omega
    rw [hdecimal]
    exact ⟨form, hform⟩

/-- The power of ten of exponent notation, which always has a sign. -/
def PowerForm.signed (power : Int) : PowerForm :=
  ⟨false, some (decide (power < 0)), Nat.toDigits 10 power.natAbs, Nat.toDigits_ne_nil,
    (isWhole_toDigits power.natAbs).isDigit⟩

theorem PowerForm.text_signed (power : Int) :
    (PowerForm.signed power).text =
      'e' :: (match power with
        | .ofNat k => '+' :: Nat.toDigits 10 k
        | .negSucc k => '-' :: Nat.toDigits 10 (k + 1)) := by
  cases power with
  | ofNat k =>
      have hsign : decide (Int.ofNat k < 0) = false :=
        decide_eq_false (Int.not_lt.mpr (Int.natCast_nonneg k))
      show 'e' :: ([if decide (Int.ofNat k < 0) then '-' else '+'] ++ Nat.toDigits 10 k) = _
      rw [hsign]
      rfl
  | negSucc k =>
      have hsign : decide (Int.negSucc k < 0) = true := decide_eq_true (Int.negSucc_lt_zero k)
      show 'e' :: ([if decide (Int.negSucc k < 0) then '-' else '+'] ++ Nat.toDigits 10 (k + 1)) = _
      rw [hsign]
      rfl

theorem PowerForm.exponent_signed (power : Int) : (PowerForm.signed power).exponent = power := by
  have hdigits : Nat.ofDigitChars 10 (PowerForm.signed power).digits 0 = power.natAbs :=
    Nat.ofDigitChars_ten_toDigits
  rw [exponent, hdigits]
  show (if decide (power < 0) = true then -(power.natAbs : Int) else power.natAbs) = power
  split
  · next hsign =>
      have hbelow := of_decide_eq_true hsign
      omega
  · next hsign =>
      have habove : ¬ power < 0 := fun hbelow => hsign (decide_eq_true hbelow)
      omega

/-- One digit stands before the point, and the others, if there are any, behind it. -/
theorem exists_writes_scientific (negative : Bool) {f : Figures} (h : IsWhole f.digits) :
    ∃ form : NumberForm, form.Writes negative f.scientific f.decimal := by
  obtain ⟨digits, power⟩ := f
  match digits, h with
  | [], h => exact absurd rfl h.ne_nil
  | [c], h =>
      refine ⟨⟨negative, [c], none, some (.signed power), h, by simp⟩, ?_, rfl, ?_, ?_⟩
      · rw [NumberForm.text, Option.elim_none, Option.elim_some, PowerForm.text_signed,
          List.nil_append, ← NumberScan.signed_append]
        rfl
      · rintro ⟨-, hnone, -⟩
        cases hnone
      · rw [NumberForm.decimal, NumberForm.exponent, Option.elim_some, PowerForm.exponent_signed,
          Figures.decimal]
        congr 1
        simp
  | c :: d :: rest, h =>
      have hdigits : IsDigits (d :: rest) :=
        ⟨List.cons_ne_nil d rest, fun b hb => h.isDigit b (List.mem_cons_of_mem c hb)⟩
      refine ⟨⟨negative, [c], some (d :: rest), some (.signed power),
        isWhole_digit (h.isDigit c List.mem_cons_self), by simpa using hdigits⟩, ?_, rfl, ?_, ?_⟩
      · rw [NumberForm.text, Option.elim_some, Option.elim_some, PowerForm.text_signed,
          ← NumberScan.signed_append]
        rfl
      · rintro ⟨hnone, -, -⟩
        cases hnone
      · rw [NumberForm.decimal, NumberForm.exponent, Option.elim_some, PowerForm.exponent_signed,
          Figures.decimal]
        congr 1
        simp

/-- The notation of JSON writes the number with the figures, perhaps with zeros moved from its power
of ten to its digits. -/
theorem exists_writes_json (negative : Bool) {f : Figures} (h : IsWhole f.digits)
    (hzero : f.digits = ['0'] → f.power = 0) :
    ∃ (form : NumberForm) (zeros : Nat),
      (zeros = 0 ∨ (f.digits.length + zeros : Int) = f.power + 2) ∧
      form.Writes negative f.json
        ⟨f.decimal.digits * 10 ^ zeros, f.decimal.exponent - zeros⟩ := by
  have hnone : (⟨f.decimal.digits * 10 ^ 0, f.decimal.exponent - (0 : Nat)⟩ : Decimal) =
      f.decimal := by
    rw [Nat.pow_zero, Nat.mul_one, Int.natCast_zero, Int.sub_zero]
  rw [Figures.json]
  split
  · split
    · next hwhole =>
        obtain ⟨form, zeros, hlen, hform⟩ := exists_writes_whole negative h hzero hwhole
        exact ⟨form, zeros, .inr hlen, hform⟩
    · next hwhole =>
        obtain ⟨form, hform⟩ := exists_writes_plain negative h (Bool.eq_false_iff.mpr hwhole)
        exact ⟨form, 0, .inl rfl, by rwa [hnone]⟩
  · obtain ⟨form, hform⟩ := exists_writes_scientific negative h
    exact ⟨form, 0, .inl rfl, by rwa [hnone]⟩

end Json

/-! ## Doubles that read back -/

namespace Binary64

/-- The constant that the text of a double is read as, if it has a text and that is in range. -/
def reread? (x : Binary64) : Option Scalar :=
  (x.jsonText?.bind NumberScan.ofText?).bind NumberScan.scalar?

/-- The text of a double, if it has one, is read as that double. -/
def ReadsBack (x : Binary64) : Prop :=
  ∀ text, x.jsonText? = some text → IsNumberText text (.float x)

variable (negative : Bool) (x : Magnitude)

/-- The form that the text of a finite double has. -/
theorem exists_writes :
    ∃ (form : NumberForm) (zeros : Nat),
      (zeros = 0 ∨ ((x.shortest .toEven).figures.digits.length + zeros : Int) =
        (x.shortest .toEven).figures.power + 2) ∧
      form.Writes negative (x.shortest .toEven).figures.json
        ⟨(x.shortest .toEven).figures.decimal.digits * 10 ^ zeros,
          (x.shortest .toEven).figures.decimal.exponent - zeros⟩ :=
  exists_writes_json negative (Decimal.isWhole_figures _) Decimal.figures_power_of_zero

/-- The text of a finite double is a number. -/
theorem exists_form : ∃ form : NumberForm,
    (finite negative x).jsonText? = some form.text ∧
      (finite negative x).reread? = form.scan.scalar? := by
  obtain ⟨form, zeros, -, hform⟩ := exists_writes negative x
  have htext : (finite negative x).jsonText? = some form.text :=
    congrArg some hform.text_eq.symm
  refine ⟨form, htext, ?_⟩
  rw [reread?, htext, Option.bind_some, form.ofText?_text, Option.bind_some]

variable {x}

theorem readsBack_iff_reread? {x : Binary64} :
    x.ReadsBack ↔ (x.isFinite = true → x.reread? = some (.float x)) := by
  cases x with
  | nan => exact iff_of_true (fun _ h => nomatch h) (fun h => nomatch h)
  | infinite negative => exact iff_of_true (fun _ h => nomatch h) (fun h => nomatch h)
  | finite negative x =>
      obtain ⟨form, htext, hread⟩ := exists_form negative x
      rw [hread]
      constructor
      · intro h _
        obtain ⟨s, hs, -, hvalue⟩ := h form.text htext
        rw [form.ofText?_text] at hs
        obtain rfl := Option.some.inj hs
        exact hvalue
      · rintro h text hsome
        obtain rfl := Option.some.inj (htext.symm.trans hsome)
        exact ⟨form.scan, form.ofText?_text, form.scan_isComplete, h rfl⟩

end Binary64

/-- The form that is written for a finite double. -/
theorem Scalar.exists_form (negative : Bool) (x : Magnitude) : ∃ form : NumberForm,
    (Scalar.float (.finite negative x)).writeJson = form.text ∧
      (Binary64.finite negative x).reread? = form.scan.scalar? := by
  obtain ⟨form, htext, hread⟩ := Binary64.exists_form negative x
  refine ⟨form, ?_, hread⟩
  rw [writeJson, htext, Option.getD_some]

/-- A number of 53 bits with a power of ten up to 22 is read as the nearest double. -/
theorem Json.NumberForm.scalar?_eq_nearest? {form : NumberForm} (hother : ¬ form.IsInteger)
    (hdigits : form.decimal.digits < 2 ^ 53) (hlow : -22 ≤ form.decimal.exponent)
    (hhigh : form.decimal.exponent ≤ 22) :
    form.scan.scalar? = form.decimal.nearest?.map fun x => .float (.finite form.negative x) := by
  have hfits : Nat.ofDigitChars 10 form.digits 0 < 2 ^ 64 := by
    refine Nat.lt_trans hdigits (by decide)
  -- none of the digits is left out
  have hall : Nat.ofDigitChars 10 (form.fraction.getD []) (Nat.ofDigitChars 10 form.whole 0) <
      2 ^ 64 := by
    rwa [digits, Nat.ofDigitChars_append] at hfits
  have hwhole : Holds 0 form.whole form.whole [] :=
    holds_of_lt (Nat.lt_of_le_of_lt (le_ofDigitChars _ _) hall)
  have hexponent : (([] : List Char).length : Int) - (form.fraction.getD []).length +
      form.exponent = form.decimal.exponent := by
    show ((0 : Nat) : Int) - _ + form.exponent = form.exponent - _
    omega
  rw [scalar?_eq_float? hother, form.scan_float? hwhole (holds_of_lt hall), hexponent]
  exact congrArg _ (Magnitude.scaled?_eq_nearest? hdigits hlow hhigh)

/-- **Short doubles read back.** A double of up to 15 digits is read from its text as itself, if it is
at least `10 ^ -8` and below `10 ^ 14`. -/
theorem Binary64.readsBack_of_length_le (negative : Bool) {x : Magnitude}
    (hlen : (x.shortest .toEven).figures.digits.length ≤ 15)
    (hlow : -8 ≤ (x.shortest .toEven).figures.power)
    (hhigh : (x.shortest .toEven).figures.power ≤ 13) : (finite negative x).ReadsBack := by
  obtain ⟨form, zeros, hzeros, hform⟩ := exists_writes negative x
  have hfigures := Decimal.isWhole_figures (x.shortest .toEven)
  have hpos := List.length_pos_of_ne_nil hfigures.ne_nil
  have hnearest : form.decimal.nearest? = some x := by
    rw [hform.decimal_eq, Decimal.nearest?_mul_ten_pow, Decimal.nearest?_figures,
      Magnitude.nearest?_shortest]
  have hbound : (x.shortest .toEven).figures.digits.length + zeros ≤ 15 := by omega
  have hdigits : form.decimal.digits < 2 ^ 53 := by
    rw [hform.decimal_eq]
    calc (x.shortest .toEven).figures.decimal.digits * 10 ^ zeros
        < (0 + 1) * 10 ^ (x.shortest .toEven).figures.digits.length * 10 ^ zeros :=
          Nat.mul_lt_mul_of_pos_right (ofDigitChars_lt hfigures.isDigit 0) (Nat.pow_pos (by decide))
      _ = 10 ^ ((x.shortest .toEven).figures.digits.length + zeros) := by
          rw [Nat.zero_add, Nat.one_mul, Nat.pow_add]
      _ ≤ 10 ^ 15 := Nat.pow_le_pow_right (by decide) hbound
      _ < 2 ^ 53 := by decide
  have hexponent : form.decimal.exponent =
      (x.shortest .toEven).figures.power + 1 - (x.shortest .toEven).figures.digits.length - zeros := by
    rw [hform.decimal_eq]
    rfl
  intro text htext
  obtain rfl : form.text = text := Option.some.inj ((congrArg some hform.text_eq).trans htext)
  refine ⟨form.scan, form.ofText?_text, form.scan_isComplete, ?_⟩
  rw [NumberForm.scalar?_eq_nearest? hform.not_isInteger hdigits (by omega) (by omega), hnearest,
    Option.map_some, hform.negative_eq]

/-- The magnitude of 2.5. -/
def Magnitude.fiveHalves : Magnitude :=
  ⟨5 * 2 ^ 50, 1023, by decide, by decide, .inr (by decide)⟩

theorem Binary64.readsBack_fiveHalves (negative : Bool) :
    (finite negative .fiveHalves).ReadsBack := by
  have hfigures : (Magnitude.fiveHalves.shortest .toEven).figures = ⟨['2', '5'], 0⟩ := by
    decide +kernel
  refine readsBack_of_length_le negative ?_ ?_ ?_
  · simp [hfigures]
  · simp [hfigures]
  · simp [hfigures]

/-- The double 51.248178375505404 has 17 digits, and its text is read as the next double. -/
example : ¬ (Binary64.finite false ⟨7212539907354464, 1027, by decide, by decide,
    .inr (by decide)⟩).ReadsBack := by
  rw [Binary64.readsBack_iff_reread?]
  decide +kernel

end SqlFilter
