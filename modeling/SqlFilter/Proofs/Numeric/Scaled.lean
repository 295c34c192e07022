import SqlFilter.Numeric.Scaled
import SqlFilter.Proofs.Numeric.Nearest

set_option autoImplicit false

/-! # Numbers times powers of ten

A rounded quotient is off by less than the factor two (`Magnitude.units_le_of_nearest?` and
`Magnitude.le_units_of_nearest?`), and a quotient of less than `2 ^ 2097` units is in range
(`Magnitude.isSome_nearest?`). That is enough to say when a number of 64 bits times a power of ten is
in range: always, if the exponent is not greater than `200` (`Magnitude.isSome_scaled?`), and for no
number but zero, if it is greater than `308` (`Magnitude.eq_zero_or_le_of_scaled?`).

Where the number and the power of ten are held exactly only their product is rounded, so the result
is the nearest double. This is so for numbers of 53 bits and exponents up to 22 on both sides
(`Magnitude.scaled?_eq_nearest?`).
-/

namespace SqlFilter.Magnitude

/-! ## Rounding a quotient -/

theorem roundQuotient_cases (num den : Nat) :
    roundQuotient num den = num / den ∨ roundQuotient num den = num / den + 1 := by
  simp only [roundQuotient]
  split
  · exact .inl rfl
  · exact .inr rfl

theorem isSome_ofParts? {mantissa scale : Nat} (hlt : mantissa < 2 ^ 53) (hle : scale ≤ 2045)
    (hfull : scale = 0 ∨ 2 ^ 52 ≤ mantissa) : (ofParts? mantissa scale).isSome := by
  have hparts : ofParts? mantissa scale = some ⟨mantissa, scale, hlt, hle, hfull⟩ :=
    dif_pos ⟨hlt, hle, hfull⟩
  rw [hparts]
  rfl

theorem units_of_ofParts? {mantissa scale : Nat} {x : Magnitude}
    (h : ofParts? mantissa scale = some x) : x.units = mantissa * 2 ^ scale := by
  rw [ofParts?] at h
  split at h
  · obtain rfl := Option.some.inj h
    rfl
  · cases h

/-- At the scale of its leading bit a number of units is cut to 53 bits. -/
theorem units_div_lt {units scale : Nat} (h : units.log2 - 52 = scale) :
    units / 2 ^ scale < 2 ^ 53 := by
  rw [Nat.div_lt_iff_lt_mul (Nat.two_pow_pos scale), ← Nat.pow_add]
  calc units
      < 2 ^ (units.log2 + 1) := Nat.lt_log2_self
    _ ≤ 2 ^ (53 + scale) := Nat.pow_le_pow_right (by decide) (by omega)

/-- Beyond the least scale the cut leaves all 53 bits. -/
theorem le_units_div {units scale : Nat} (h : units.log2 - 52 = scale) (hscale : scale ≠ 0) :
    2 ^ 52 ≤ units / 2 ^ scale := by
  have hunits : units ≠ 0 := by
    rintro rfl
    rw [Nat.log2_zero] at h
    omega
  have hpow : 52 + scale = units.log2 := by omega
  rw [Nat.le_div_iff_mul_le (Nat.two_pow_pos scale), ← Nat.pow_add, hpow]
  exact Nat.log2_self_le hunits

/-- A fraction of less than `2 ^ 2097` units is in range. -/
theorem isSome_nearest? {num den bits : Nat} (hbits : bits ≤ 2097) (h : num / den < 2 ^ bits) :
    (nearest? num den).isSome := by
  obtain ⟨scale, hscale⟩ : ∃ scale, (num / den).log2 - 52 = scale := ⟨_, rfl⟩
  have hround := roundQuotient_cases num (den * 2 ^ scale)
  rw [← Nat.div_div_eq_div_mul] at hround
  rw [nearest?_eq hscale rfl]
  generalize num / den = units at h hscale hround
  have hlog : units.log2 ≤ 2096 := by
    by_cases hzero : units = 0
    · rw [hzero, Nat.log2_zero]
      exact Nat.zero_le _
    · have hlt := (Nat.log2_lt hzero).mpr h
      omega
  have hlow := units_div_lt hscale
  have hfull : scale = 0 ∨ 2 ^ 52 ≤ units / 2 ^ scale :=
    or_iff_not_imp_left.mpr (le_units_div hscale)
  split
  · exact isSome_ofParts? (by norm_num) (by omega) (.inr (Nat.le_refl _))
  · next hne =>
      refine isSome_ofParts? (by omega) (by omega) (hfull.imp_right fun hle => ?_)
      omega

/-- The units of a rounded fraction are the fraction, cut at the scale of its leading bit, or one
more. -/
theorem exists_scale_of_nearest? {num den : Nat} {x : Magnitude} (h : nearest? num den = some x) :
    ∃ scale, (num / den).log2 - 52 = scale ∧
      (x.units = num / den / 2 ^ scale * 2 ^ scale ∨
        x.units = (num / den / 2 ^ scale + 1) * 2 ^ scale) := by
  obtain ⟨scale, hscale⟩ : ∃ scale, (num / den).log2 - 52 = scale := ⟨_, rfl⟩
  have hround := roundQuotient_cases num (den * 2 ^ scale)
  rw [← Nat.div_div_eq_div_mul] at hround
  have hunits : x.units = roundQuotient num (den * 2 ^ scale) * 2 ^ scale := by
    rw [nearest?_eq hscale rfl] at h
    split at h
    · next hcarry =>
        -- a mantissa that was rounded up to the next power of two
        rw [units_of_ofParts? h, hcarry]
        ring
    · exact units_of_ofParts? h
  refine ⟨scale, hscale, ?_⟩
  rw [hunits]
  rcases hround with hround | hround
  · exact .inl (by rw [hround])
  · exact .inr (by rw [hround])

/-- Rounding makes a fraction no more than twice as large, but for a unit. -/
theorem units_le_of_nearest? {num den : Nat} {x : Magnitude} (h : nearest? num den = some x) :
    x.units ≤ 2 * (num / den) + 1 := by
  obtain ⟨scale, hscale, hunits⟩ := exists_scale_of_nearest? h
  generalize num / den = units at hscale hunits ⊢
  have hcut : units / 2 ^ scale * 2 ^ scale ≤ units := Nat.div_mul_le_self units _
  rw [Nat.add_mul, Nat.one_mul] at hunits
  by_cases hzero : scale = 0
  · rw [hzero] at hunits hcut
    omega
  · have hone : 1 * 2 ^ scale ≤ units / 2 ^ scale * 2 ^ scale :=
      Nat.mul_le_mul_right _ (Nat.le_trans (by norm_num) (le_units_div hscale hzero))
    omega

/-- Rounding leaves at least half of a fraction. -/
theorem le_units_of_nearest? {num den : Nat} {x : Magnitude} (h : nearest? num den = some x) :
    num / den ≤ 2 * x.units := by
  obtain ⟨scale, hscale, hunits⟩ := exists_scale_of_nearest? h
  generalize num / den = units at hscale hunits ⊢
  have hcut : units < units / 2 ^ scale * 2 ^ scale + 2 ^ scale :=
    Nat.lt_div_mul_add (Nat.two_pow_pos scale)
  rw [Nat.add_mul, Nat.one_mul] at hunits
  by_cases hzero : scale = 0
  · rw [hzero] at hunits hcut
    omega
  · have hone : 1 * 2 ^ scale ≤ units / 2 ^ scale * 2 ^ scale :=
      Nat.mul_le_mul_right _ (Nat.le_trans (by norm_num) (le_units_div hscale hzero))
    omega

theorem units_lt (x : Magnitude) {bits : Nat} (hbits : bits = 2098) : x.units < 2 ^ bits := by
  have hpow : 53 + x.scale ≤ bits := by
    have hle := x.scale_le
    omega
  calc x.units
      < 2 ^ 53 * 2 ^ x.scale := Nat.mul_lt_mul_of_pos_right x.mantissa_lt (Nat.two_pow_pos _)
    _ = 2 ^ (53 + x.scale) := (Nat.pow_add 2 53 x.scale).symm
    _ ≤ 2 ^ bits := Nat.pow_le_pow_right (by decide) hpow

/-! ## Whole numbers and powers of ten -/

theorem unitsOfOne_eq : unitsOfOne = 2 ^ 1074 := by
  rw [unitsOfOne, Nat.pow_eq]

theorem unitsOfOne_pos : 0 < unitsOfOne := by
  rw [unitsOfOne_eq]
  exact Nat.two_pow_pos 1074

theorem timesTen?_eq {x power : Magnitude} {k : Nat} (h : ofNat? (10 ^ k) = some power) :
    x.timesTen? k = x.mul? power := by
  rw [timesTen?, Nat.pow_eq, h, Option.bind_some]

theorem overTen?_eq {x power : Magnitude} {k : Nat} (h : ofNat? (10 ^ k) = some power) :
    x.overTen? k = x.div? power := by
  rw [overTen?, Nat.pow_eq, h, Option.bind_some]

/-- Numbers of up to 1023 bits are in range. -/
theorem isSome_ofNat? {n bits : Nat} (hbits : bits ≤ 1023) (h : n < 2 ^ bits) :
    (ofNat? n).isSome := by
  have hsum : bits + 1074 ≤ 2097 := by omega
  rw [ofNat?]
  refine isSome_nearest? hsum ?_
  rw [Nat.div_one, Nat.pow_add, ← unitsOfOne_eq]
  exact Nat.mul_lt_mul_of_pos_right h unitsOfOne_pos

/-- A whole number is rounded by less than the factor two. -/
theorem units_of_ofNat? {n : Nat} {x : Magnitude} (h : ofNat? n = some x) :
    n * unitsOfOne ≤ 2 * x.units ∧ x.units ≤ 2 * (n * unitsOfOne) + 1 := by
  rw [ofNat?] at h
  have hlower := le_units_of_nearest? h
  have hupper := units_le_of_nearest? h
  rw [Nat.div_one] at hlower hupper
  exact ⟨hlower, hupper⟩

theorem units_pos_of_ofNat? {n : Nat} {x : Magnitude} (h : ofNat? n = some x) (hpos : 0 < n) :
    0 < x.units := by
  have hlower := (units_of_ofNat? h).1
  have hproduct : 0 < n * unitsOfOne := Nat.mul_pos hpos unitsOfOne_pos
  omega

/-- A whole number takes one more bit than it has, at most. -/
theorem units_lt_of_ofNat? {n bits : Nat} {x : Magnitude} (h : ofNat? n = some x)
    (hn : n < 2 ^ bits) : x.units < 2 ^ (bits + 1) * unitsOfOne := by
  have hunit := unitsOfOne_pos
  calc x.units
      ≤ 2 * (n * unitsOfOne) + 1 := (units_of_ofNat? h).2
    _ < 2 * ((n + 1) * unitsOfOne) := by rw [Nat.add_mul]; omega
    _ ≤ 2 * (2 ^ bits * unitsOfOne) := Nat.mul_le_mul_left _ (Nat.mul_le_mul_right _ hn)
    _ = 2 ^ (bits + 1) * unitsOfOne := by ring

/-- The powers of ten that are at hand. -/
theorem exists_ofNat?_ten_pow {k : Nat} (h : k ≤ 308) : ∃ power, ofNat? (10 ^ k) = some power := by
  rw [← Option.isSome_iff_exists]
  rcases Nat.lt_or_eq_of_le h with hlt | rfl
  · have hbits : 1020 ≤ 1023 := by decide
    refine isSome_ofNat? hbits ?_
    calc 10 ^ k
        ≤ 10 ^ 307 := Nat.pow_le_pow_right (by decide) (by omega)
      _ < 2 ^ 1020 := by decide +kernel
  · decide +kernel

/-- The quotient by a power of ten is in range. -/
theorem isSome_overTen? (x : Magnitude) {k : Nat} (hpos : 0 < k) (h : k ≤ 308) :
    (x.overTen? k).isSome := by
  obtain ⟨power, hpower⟩ := exists_ofNat?_ten_pow h
  have hten : 10 ≤ 10 ^ k := Nat.le_self_pow (Nat.ne_of_gt hpos) 10
  have hlower : 10 ^ k * unitsOfOne ≤ 2 * power.units := (units_of_ofNat? hpower).1
  have hunit := unitsOfOne_pos
  obtain ⟨bits, hbits⟩ : ∃ bits, bits = 2097 := ⟨_, rfl⟩
  have hunits : x.units < 2 ^ (bits + 1) := x.units_lt (by omega)
  rw [overTen?_eq hpower, div?]
  refine isSome_nearest? (Nat.le_of_eq hbits) ?_
  have hleast : 10 * unitsOfOne ≤ 2 * power.units :=
    Nat.le_trans (Nat.mul_le_mul_right _ hten) hlower
  rw [Nat.div_lt_iff_lt_mul (by omega)]
  calc x.units * unitsOfOne
      < 2 ^ (bits + 1) * unitsOfOne := Nat.mul_lt_mul_of_pos_right hunits hunit
    _ = 2 ^ bits * (2 * unitsOfOne) := by ring
    _ ≤ 2 ^ bits * power.units := Nat.mul_le_mul_left _ (by omega)

/-- Quotients by powers of ten are in range, however many there are. -/
theorem isSome_shrink? {last : Nat} (hpos : 0 < last) (h : last ≤ 308) (times : Nat)
    (x : Magnitude) : (shrink? last times x).isSome := by
  induction times generalizing x with
  | zero => exact x.isSome_overTen? hpos h
  | succ times ih =>
      obtain ⟨y, hy⟩ := Option.isSome_iff_exists.mp
        (x.isSome_overTen? (k := 308) (by decide) (Nat.le_refl 308))
      rw [shrink?, hy, Option.bind_some]
      split
      · rfl
      · exact ih y

/-! ## Numbers of 64 bits -/

theorem scaled?_ofNat {n : Nat} {x : Magnitude} (h : ofNat? n = some x) (k : Nat) :
    scaled? n (Int.ofNat k) =
      if k ≤ 308 then x.timesTen? k else if x = zero then some zero else none := by
  rw [scaled?, h, Option.bind_some]

theorem scaled?_negSucc {n : Nat} {x : Magnitude} (h : ofNat? n = some x) (k : Nat) :
    scaled? n (Int.negSucc k) = x.shrink? (k % 308 + 1) (k / 308) := by
  rw [scaled?, h, Option.bind_some]

/-- A number of 64 bits is in range with every exponent that is not greater than 200. -/
theorem isSome_scaled? {n : Nat} (h : n < 2 ^ 64) {exponent : Int} (hle : exponent ≤ 200) :
    (scaled? n exponent).isSome := by
  obtain ⟨x, hx⟩ := Option.isSome_iff_exists.mp (isSome_ofNat? (by decide) h)
  cases exponent with
  | ofNat k =>
      have hk : k ≤ 200 := Int.ofNat_le.mp hle
      obtain ⟨power, hpower⟩ := exists_ofNat?_ten_pow (show k ≤ 308 by omega)
      have hten : 10 ^ k < 2 ^ 665 :=
        Nat.lt_of_le_of_lt (Nat.pow_le_pow_right (by decide) hk) (by decide +kernel)
      have hunits := units_lt_of_ofNat? hx h
      have hpowers := units_lt_of_ofNat? hpower hten
      have hbits : 65 + (666 + 1074) ≤ 2097 := by decide
      rw [scaled?_ofNat hx, if_pos (by omega), timesTen?_eq hpower, mul?]
      refine isSome_nearest? hbits ?_
      rw [Nat.div_lt_iff_lt_mul unitsOfOne_pos, Nat.pow_add 2 65, Nat.pow_add 2 666,
        ← unitsOfOne_eq]
      refine Nat.lt_of_lt_of_eq (Nat.mul_lt_mul'' hunits hpowers) ?_
      ring
  | negSucc k =>
      rw [scaled?_negSucc hx]
      exact isSome_shrink? (by omega) (by omega) _ x

/-- Zero stays zero with every exponent. -/
theorem scaled?_zero (exponent : Int) : scaled? 0 exponent = some zero := by
  have hzero : ofNat? 0 = some zero := by
    rw [ofNat?, Nat.zero_mul]
    exact nearest?_of_small (by decide)
  have hunits : zero.units = 0 := rfl
  cases exponent with
  | ofNat k =>
      rw [scaled?_ofNat hzero]
      split
      · next hk =>
          obtain ⟨power, hpower⟩ := exists_ofNat?_ten_pow hk
          rw [timesTen?_eq hpower, mul?, hunits, Nat.zero_mul]
          exact nearest?_of_small unitsOfOne_pos
      · rfl
  | negSucc k =>
      rw [scaled?_negSucc hzero]
      cases k / 308 with
      | zero =>
          obtain ⟨power, hpower⟩ := exists_ofNat?_ten_pow (show k % 308 + 1 ≤ 308 by omega)
          rw [shrink?, overTen?_eq hpower, div?, hunits, Nat.zero_mul]
          exact nearest?_of_small (units_pos_of_ofNat? hpower (Nat.pow_pos (by decide)))
      | succ times => rw [shrink?, if_pos rfl]

/-- Beyond the greatest power of ten only zero is in range. -/
theorem eq_zero_or_le_of_scaled? {n : Nat} {exponent : Int} (h : (scaled? n exponent).isSome) :
    n = 0 ∨ exponent ≤ 308 := by
  cases exponent with
  | negSucc k => exact .inr (by omega)
  | ofNat k =>
      by_cases hk : k ≤ 308
      · exact .inr (Int.ofNat_le.mpr hk)
      · left
        cases hx : ofNat? n with
        | none => simp [scaled?, hx] at h
        | some x =>
            rw [scaled?_ofNat hx, if_neg hk] at h
            split at h
            · next hzero =>
                have hlower := (units_of_ofNat? hx).1
                rw [hzero] at hlower
                exact (Nat.mul_eq_zero.mp (Nat.le_zero.mp hlower)).resolve_right
                  unitsOfOne_pos.ne'
            · cases h

/-! ## Where nothing is lost -/

/-- A number of 53 bits times a power of two is held exactly. -/
theorem exists_units {m shift : Nat} (hm : m < 2 ^ 53) (hpos : m ≠ 0) (hshift : shift ≤ 971) :
    ∃ x : Magnitude, ofNat? (m * 2 ^ shift) = some x ∧ x.units = m * 2 ^ shift * unitsOfOne := by
  have hlog : m.log2 < 53 := (Nat.log2_lt hpos).mpr hm
  have hlow : 2 ^ m.log2 ≤ m := Nat.log2_self_le hpos
  have hhigh : m < 2 ^ (m.log2 + 1) := Nat.lt_log2_self
  -- the mantissa is filled up to 53 bits, at the cost of the scale
  obtain ⟨fill, hfill⟩ : ∃ fill, m.log2 + fill = 52 := ⟨52 - m.log2, by omega⟩
  have hlt : m * 2 ^ fill < 2 ^ 53 := by
    calc m * 2 ^ fill
        < 2 ^ (m.log2 + 1) * 2 ^ fill := Nat.mul_lt_mul_of_pos_right hhigh (Nat.two_pow_pos fill)
      _ = 2 ^ 53 := by rw [← Nat.pow_add, Nat.add_right_comm, hfill]
  have hfull : 2 ^ 52 ≤ m * 2 ^ fill := by
    calc 2 ^ 52
        = 2 ^ m.log2 * 2 ^ fill := by rw [← Nat.pow_add, hfill]
      _ ≤ m * 2 ^ fill := Nat.mul_le_mul_right _ hlow
  let x : Magnitude := ⟨m * 2 ^ fill, shift + 1074 - fill, hlt, by omega, .inr hfull⟩
  have hunits : x.units = m * 2 ^ shift * unitsOfOne := by
    have hscale : fill + (shift + 1074 - fill) = shift + 1074 := by omega
    rw [units_eq, Nat.mul_assoc, ← Nat.pow_add, hscale, Nat.pow_add, ← Nat.mul_assoc,
      unitsOfOne_eq]
  have hne : x.mantissa ≠ 0 := Nat.mul_ne_zero hpos (Nat.two_pow_pos fill).ne'
  exact ⟨x, by rw [ofNat?, ← hunits, nearest?_units x hne], hunits⟩

/-- The powers of ten up to `10 ^ 22` are held exactly. -/
theorem exists_units_ten_pow {k : Nat} (h : k ≤ 22) :
    ∃ power : Magnitude, ofNat? (10 ^ k) = some power ∧ power.units = 10 ^ k * unitsOfOne := by
  have hten : 10 ^ k = 5 ^ k * 2 ^ k := by rw [← Nat.mul_pow]
  have hfive : 5 ^ k < 2 ^ 53 :=
    Nat.lt_of_le_of_lt (Nat.pow_le_pow_right (by decide) h) (by decide)
  rw [hten]
  exact exists_units hfive (pow_ne_zero k (by decide)) (by omega)

/-- **Where nothing is lost.** A number of 53 bits times a power of ten up to `10 ^ 22`, or divided by
one, is the nearest double. -/
theorem scaled?_eq_nearest? {digits : Nat} {exponent : Int} (hdigits : digits < 2 ^ 53)
    (hlow : -22 ≤ exponent) (hhigh : exponent ≤ 22) :
    scaled? digits exponent = (⟨digits, exponent⟩ : Decimal).nearest? := by
  by_cases hzero : digits = 0
  · rw [hzero, scaled?_zero]
    rfl
  · obtain ⟨x, hx, hunits⟩ := exists_units hdigits hzero (Nat.zero_le 971)
    rw [Nat.pow_zero, Nat.mul_one] at hx hunits
    have hunit := unitsOfOne_pos
    rw [Decimal.nearest?_mk hzero, ← unitsOfOne_eq]
    cases exponent with
    | ofNat k =>
        have hk : k ≤ 22 := Int.ofNat_le.mp hhigh
        obtain ⟨power, hpower, hpowers⟩ := exists_units_ten_pow hk
        have hwhole : (Int.ofNat k).toNat = k := rfl
        have hplaces : (-Int.ofNat k).toNat = 0 := Int.toNat_eq_zero.mpr (by simp)
        rw [scaled?_ofNat hx, if_pos (by omega), timesTen?_eq hpower, mul?, hunits, hpowers,
          hwhole, hplaces, Nat.pow_zero]
        refine nearest?_eq_of_mul_eq hunit Nat.one_pos ?_
        ring
    | negSucc k =>
        have hk : k + 1 ≤ 22 := by omega
        obtain ⟨power, hpower, hpowers⟩ := exists_units_ten_pow hk
        have hwhole : (Int.negSucc k).toNat = 0 := rfl
        have hplaces : (-Int.negSucc k).toNat = k + 1 := rfl
        have htimes : k / 308 = 0 := Nat.div_eq_of_lt (by omega)
        have hlast : k % 308 = k := Nat.mod_eq_of_lt (by omega)
        have hten : 0 < 10 ^ (k + 1) := Nat.pow_pos (by decide)
        rw [scaled?_negSucc hx, htimes, hlast, shrink?, overTen?_eq hpower, div?, hunits,
          hpowers, hwhole, hplaces, Nat.pow_zero, Nat.mul_one]
        refine nearest?_eq_of_mul_eq (Nat.mul_pos hten hunit) hten ?_
        ring

/-- With a number of more bits the greatest double is out of range. -/
example : scaled? 17976931348623158 292 = none ∧
    (⟨17976931348623158, 292⟩ : Decimal).nearest?.isSome = true := by
  decide +kernel

end SqlFilter.Magnitude
