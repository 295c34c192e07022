import SqlFilter.Numeric.Shortest
import Mathlib.Tactic

set_option autoImplicit false

/-! # The nearest double

`Decimal.nearest?` depends on the value of a decimal number and on nothing else: the two shortcuts
for numbers far out of range give what rounding the exact quotient would give
(`Decimal.nearest?_mk`), and a quotient is rounded the same however its fraction is written
(`Magnitude.nearest?_mul_right`). So zeros may be moved between the digits and the power of ten, and
a double is the one nearest to its shortest digits (`Magnitude.nearest?_shortest`).
-/

namespace SqlFilter

namespace Magnitude

/-! ## Rounding a fraction -/

theorem units_eq (x : Magnitude) : x.units = x.mantissa * 2 ^ x.scale :=
  rfl

theorem nearest?_eq {num den scale mantissa : Nat} (hscale : (num / den).log2 - 52 = scale)
    (hmantissa : roundQuotient num (den * 2 ^ scale) = mantissa) :
    nearest? num den =
      if mantissa = 2 ^ 53 then ofParts? (2 ^ 52) (scale + 1) else ofParts? mantissa scale := by
  subst hscale hmantissa
  rfl

theorem roundQuotient_mul_right (num den : Nat) {c : Nat} (hc : 0 < c) :
    roundQuotient (num * c) (den * c) = roundQuotient num den := by
  have hdiv : num * c / (den * c) = num / den := Nat.mul_div_mul_right num den hc
  have hmod : num * c % (den * c) = num % den * c := Nat.mul_mod_mul_right c num den
  have htwice : 2 * (num % den * c) = 2 * (num % den) * c := (Nat.mul_assoc _ _ _).symm
  simp only [roundQuotient, hdiv, hmod, htwice, Nat.mul_lt_mul_right hc,
    Nat.mul_left_inj (Nat.ne_of_gt hc)]

/-- A fraction may be expanded. -/
theorem nearest?_mul_right (num den : Nat) {c : Nat} (hc : 0 < c) :
    nearest? (num * c) (den * c) = nearest? num den := by
  have hdiv : num * c / (den * c) = num / den := Nat.mul_div_mul_right num den hc
  simp only [nearest?, hdiv, Nat.mul_right_comm den c, roundQuotient_mul_right _ _ hc]

/-- Equal fractions have the same nearest magnitude. -/
theorem nearest?_eq_of_mul_eq {num den num' den' : Nat} (hden : 0 < den) (hden' : 0 < den')
    (h : num * den' = num' * den) : nearest? num den = nearest? num' den' := by
  calc nearest? num den
      = nearest? (num * den') (den * den') := (nearest?_mul_right num den hden').symm
    _ = nearest? (num' * den) (den' * den) := by rw [h, Nat.mul_comm den den']
    _ = nearest? num' den' := nearest?_mul_right num' den' hden

/-- A whole number divided by one is not rounded. -/
theorem roundQuotient_of_dvd (n : Nat) {den : Nat} (hden : 0 < den) :
    roundQuotient (n * den) den = n := by
  simp [roundQuotient, Nat.mul_div_cancel n hden, hden]

/-- A magnitude is nearest to itself. -/
theorem nearest?_units (x : Magnitude) (h : x.mantissa ≠ 0) : nearest? x.units 1 = some x := by
  -- the scale is what the leading bit of the units says
  have hscale : x.units.log2 - 52 = x.scale := by
    rcases x.full with hzero | hfull
    · have hlog : x.units.log2 < 53 := by
        rw [units_eq, hzero, Nat.pow_zero, Nat.mul_one, Nat.log2_lt h]
        exact x.mantissa_lt
      omega
    · have hlog : x.units.log2 = 52 + x.scale := by
        have hpos : 0 < 2 ^ x.scale := Nat.two_pow_pos x.scale
        rw [units_eq, Nat.log2_eq_iff (Nat.mul_ne_zero h hpos.ne'), Nat.pow_add]
        refine ⟨Nat.mul_le_mul_right _ hfull, ?_⟩
        calc x.mantissa * 2 ^ x.scale
            < 2 ^ 53 * 2 ^ x.scale := Nat.mul_lt_mul_of_pos_right x.mantissa_lt hpos
          _ = 2 ^ (52 + x.scale + 1) := by ring
      omega
  have hround : roundQuotient x.units (1 * 2 ^ x.scale) = x.mantissa := by
    rw [units_eq, Nat.one_mul, roundQuotient_of_dvd _ (by positivity)]
  have hne : x.mantissa ≠ 2 ^ 53 := Nat.ne_of_lt x.mantissa_lt
  rw [nearest?_eq (by rw [Nat.div_one, hscale]) hround, if_neg hne, ofParts?_eq]

/-- A fraction of `2 ^ 2098` units or more is too large. -/
theorem nearest?_of_large {num den bits : Nat} (hbits : 2098 ≤ bits) (h : 2 ^ bits ≤ num / den) :
    nearest? num den = none := by
  have hpos : 0 < num / den := Nat.lt_of_lt_of_le (Nat.two_pow_pos bits) h
  have hlog : bits ≤ (num / den).log2 := (Nat.le_log2 hpos.ne').mpr h
  simp only [nearest?]
  split
  · exact dif_neg fun hparts => by omega
  · exact dif_neg fun hparts => by omega

/-- A fraction of less than half a unit is rounded to zero. -/
theorem nearest?_of_small {num den : Nat} (h : 2 * num < den) : nearest? num den = some zero := by
  have hdiv : num / den = 0 := Nat.div_eq_of_lt (by omega)
  have hmod : num % den = num := Nat.mod_eq_of_lt (by omega)
  have hround : roundQuotient num den = 0 := by
    simp [roundQuotient, hdiv, hmod, h]
  have hscale : (num / den).log2 - 52 = 0 := by
    rw [hdiv, Nat.log2_zero]
  rw [nearest?_eq hscale (by rw [Nat.pow_zero, Nat.mul_one, hround])]
  rfl

theorem eq_zero_of_mantissa {x : Magnitude} (h : x.mantissa = 0) : x = zero := by
  obtain ⟨mantissa, scale, hlt, hle, hfull⟩ := x
  obtain rfl : mantissa = 0 := h
  obtain rfl : scale = 0 := hfull.resolve_right (by norm_num)
  rfl

end Magnitude

namespace Decimal

/-! ## Only the value counts -/

/-- A power of ten is not far below the power of two with `10 / 3` times its exponent. -/
theorem two_pow_le_ten_pow {n k : Nat} (h : 62 * n ≤ k) : 2 ^ (205 * n) ≤ 10 ^ k := by
  calc 2 ^ (205 * n)
      = (2 ^ 205) ^ n := Nat.pow_mul 2 205 n
    _ ≤ (10 ^ 62) ^ n := Nat.pow_le_pow_left (by decide) n
    _ = 10 ^ (62 * n) := (Nat.pow_mul 10 62 n).symm
    _ ≤ 10 ^ k := Nat.pow_le_pow_right (by decide) h

theorem nearest?_ofNat {digits : Nat} (h : digits ≠ 0) (k : Nat) :
    (⟨digits, Int.ofNat k⟩ : Decimal).nearest? =
      if 310 ≤ k then none else Magnitude.nearest? (digits * 10 ^ k * 2 ^ 1074) 1 := by
  simp only [nearest?, if_neg h, Nat.pow_eq]

theorem nearest?_negSucc {digits : Nat} (h : digits ≠ 0) (k : Nat) :
    (⟨digits, Int.negSucc k⟩ : Decimal).nearest? =
      if digits.log2 + 1076 < 3 * (k + 1) then some Magnitude.zero
      else Magnitude.nearest? (digits * 2 ^ 1074) (10 ^ (k + 1)) := by
  simp only [nearest?, if_neg h, Nat.pow_eq]

/-- The nearest double of a decimal number, without the shortcuts for numbers out of range. -/
theorem nearest?_mk {digits : Nat} (h : digits ≠ 0) (exponent : Int) :
    (⟨digits, exponent⟩ : Decimal).nearest? =
      Magnitude.nearest? (digits * 10 ^ exponent.toNat * 2 ^ 1074) (10 ^ (-exponent).toNat) := by
  cases exponent with
  | ofNat k =>
      have hwhole : (Int.ofNat k).toNat = k := rfl
      have hplaces : (-Int.ofNat k).toNat = 0 := Int.toNat_eq_zero.mpr (by simp)
      rw [nearest?_ofNat h, hwhole, hplaces, Nat.pow_zero]
      split
      · rename_i hk
        -- `10 ^ 310` is above `2 ^ 1025`, more than any double
        have hlarge : 2 ^ (205 * 5) ≤ digits * 10 ^ k :=
          Nat.le_trans (two_pow_le_ten_pow hk) (Nat.le_mul_of_pos_left _ (Nat.pos_of_ne_zero h))
        have hbits : 2098 ≤ 205 * 5 + 1074 := by decide
        refine (Magnitude.nearest?_of_large hbits ?_).symm
        rw [Nat.div_one, pow_add]
        exact Nat.mul_le_mul_right _ hlarge
      · rfl
  | negSucc k =>
      have hwhole : (Int.negSucc k).toNat = 0 := rfl
      have hplaces : (-Int.negSucc k).toNat = k + 1 := rfl
      rw [nearest?_negSucc h, hwhole, hplaces, Nat.pow_zero, Nat.mul_one]
      split
      · rename_i hk
        refine (Magnitude.nearest?_of_small ?_).symm
        -- powers of eight are below those of ten, and their exponents are easy to compare
        have hdigits : digits < 2 ^ (digits.log2 + 1) := Nat.lt_log2_self
        calc 2 * (digits * 2 ^ 1074)
            < 2 * (2 ^ (digits.log2 + 1) * 2 ^ 1074) := by gcongr
          _ = 2 ^ (digits.log2 + 1076) := by
              rw [← Nat.pow_add, ← Nat.pow_succ']
          _ ≤ 2 ^ (3 * (k + 1)) := Nat.pow_le_pow_right (by decide) (by omega)
          _ = 8 ^ (k + 1) := by rw [Nat.pow_mul]
          _ ≤ 10 ^ (k + 1) := Nat.pow_le_pow_left (by decide) _
      · rfl

/-- Zeros may be moved from the power of ten to the digits. -/
theorem nearest?_mul_ten_pow (digits z : Nat) (exponent : Int) :
    (⟨digits * 10 ^ z, exponent - z⟩ : Decimal).nearest? = (⟨digits, exponent⟩ : Decimal).nearest? := by
  by_cases hdigits : digits = 0
  · subst hdigits
    rw [Nat.zero_mul]
    rfl
  · have hshifted : digits * 10 ^ z ≠ 0 := Nat.mul_ne_zero hdigits (by positivity)
    rw [nearest?_mk hshifted, nearest?_mk hdigits]
    refine Magnitude.nearest?_eq_of_mul_eq (by positivity) (by positivity) ?_
    -- both sides are the digits and a unit times one and the same power of ten
    have hpow : 10 ^ z * 10 ^ (exponent - z).toNat * 10 ^ (-exponent).toNat =
        10 ^ exponent.toNat * 10 ^ (-(exponent - z)).toNat := by
      rw [← Nat.pow_add, ← Nat.pow_add, ← Nat.pow_add]
      congr 1
      omega
    generalize 2 ^ 1074 = unit
    calc digits * 10 ^ z * 10 ^ (exponent - z).toNat * unit * 10 ^ (-exponent).toNat
        = digits * (10 ^ z * 10 ^ (exponent - z).toNat * 10 ^ (-exponent).toNat) * unit := by
          ring
      _ = digits * (10 ^ exponent.toNat * 10 ^ (-(exponent - z)).toNat) * unit := by rw [hpow]
      _ = digits * 10 ^ exponent.toNat * unit * 10 ^ (-(exponent - z)).toNat := by ring

end Decimal

namespace Magnitude

/-! ## The shortest digits read back -/

/-- The exact value reads back. -/
theorem nearest?_exact {x : Magnitude} (h : x.mantissa ≠ 0) : x.exact.nearest? = some x := by
  have hunits : x.units ≠ 0 := Nat.mul_ne_zero h (Nat.two_pow_pos x.scale).ne'
  have hexact : x.exact = ⟨x.units * 5 ^ 1074, -1074⟩ := by
    simp only [exact, Nat.pow_eq]
  have hdigits : x.units * 5 ^ 1074 ≠ 0 := Nat.mul_ne_zero hunits (pow_ne_zero 1074 (by decide))
  have hwhole : (-1074 : Int).toNat = 0 := rfl
  have hplaces : (- -1074 : Int).toNat = 1074 := rfl
  rw [hexact, Decimal.nearest?_mk hdigits, hwhole, hplaces, ← nearest?_units x h]
  refine nearest?_eq_of_mul_eq (Nat.pow_pos (by decide)) Nat.one_pos ?_
  rw [Nat.pow_zero, Nat.mul_one, Nat.mul_one, Nat.mul_assoc, ← Nat.mul_pow]

theorem nearest?_of_neighbour? {tie : Tie} {x : Magnitude} {power : Int} {num den : Nat} {d : Decimal}
    (h : neighbour? tie x power num den = some d) : d.nearest? = some x := by
  rw [neighbour?] at h
  split at h
  · rename_i hlow
    obtain rfl := Option.some.inj h
    exact hlow.1
  · split at h
    · rename_i hhigh
      obtain rfl := Option.some.inj h
      exact hhigh
    · cases h

/-- **A double is the one nearest to its shortest digits.** -/
theorem nearest?_shortest (tie : Tie) (x : Magnitude) : (x.shortest tie).nearest? = some x := by
  rw [shortest]
  split
  · rename_i hzero
    rw [eq_zero_of_mantissa hzero]
    rfl
  · rename_i hne
    cases hfind : (List.range' 1 17).findSome? (x.onGrid? tie) with
    | none => exact nearest?_exact hne
    | some d =>
        obtain ⟨n, -, hgrid⟩ := List.exists_of_findSome?_eq_some hfind
        exact nearest?_of_neighbour? hgrid

end Magnitude

end SqlFilter
