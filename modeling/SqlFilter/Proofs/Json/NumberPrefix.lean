import SqlFilter.Proofs.Json.Numerals
import SqlFilter.Proofs.Numeric.Scaled

set_option autoImplicit false

/-! # Numbers cut short

A number that is cut short may be a number again, and another one. A written number has at most 21
characters in front of its point or its exponent (`HasShortWhole`), so few of its digits are left
out, and what is left of it is in range when it is cut before the exponent. A number that is cut
inside its exponent has at most a tenth of the exponent. So what is left of a written number never is
too large (`isSome_scalar?_of_append`).
-/

namespace SqlFilter.Json

open Binary64 (signed digitValue)

/-! ## The characters in front of the point -/

/-- At most 21 digits and signs stand at the start of a text. -/
def HasShortWhole (text : List Char) : Prop :=
  ∀ whole rest, text = whole ++ rest → (∀ c ∈ whole, c = '-' ∨ c.isDigit = true) →
    whole.length ≤ 21

theorem HasShortWhole.of_append {text more : List Char} (h : HasShortWhole (text ++ more)) :
    HasShortWhole text := by
  rintro whole rest rfl hwhole
  exact h whole (rest ++ more) (List.append_assoc ..) hwhole

theorem hasShortWhole_of_length {text : List Char} (h : text.length ≤ 21) :
    HasShortWhole text := by
  rintro whole rest rfl -
  rw [List.length_append] at h
  omega

/-- The first character that is neither a digit nor a sign ends the digits. -/
theorem hasShortWhole_append {before : List Char} (h : before.length ≤ 21) {c : Char}
    (hc : ¬ (c = '-' ∨ c.isDigit = true)) (after : List Char) :
    HasShortWhole (before ++ c :: after) := by
  intro whole rest heq hwhole
  rcases List.append_eq_append_iff.mp heq with ⟨longer, rfl, htail⟩ | ⟨shorter, rfl, -⟩
  · cases longer with
    | nil => rwa [List.append_nil]
    | cons d longer =>
        obtain rfl : c = d := (List.cons.inj htail).1
        exact absurd (hwhole c (by simp)) hc
  · rw [List.length_append] at h
    omega

/-! ## Written numbers -/

theorem length_signed (negative : Bool) (text : List Char) :
    (signed negative text).length ≤ text.length + 1 := by
  cases negative <;> simp [signed]

theorem hasShortWhole_int (value : Int64) : HasShortWhole (toString value.toInt).toList := by
  have hupper := value.toInt_lt
  have hlower := value.le_toInt
  have hdigits : (Nat.toDigits 10 value.toInt.natAbs).length ≤ 20 :=
    Nat.toDigits_length 10 value.toInt.natAbs 20 (by decide) (by omega)
  have hsigned := length_signed (decide (value.toInt < 0)) (Nat.toDigits 10 value.toInt.natAbs)
  refine hasShortWhole_of_length ?_
  rw [toList_toString_int]
  omega

theorem hasShortWhole_uint (value : UInt64) : HasShortWhole (toString value.toNat).toList := by
  have hlt := value.toNat_lt
  refine hasShortWhole_of_length ?_
  rw [Nat.toString_eq_repr, Nat.toList_repr]
  exact Nat.toDigits_length 10 value.toNat 21 (by decide) (by omega)

/-- Positional notation has its point after at most 16 digits, or has only those. -/
theorem plain_cases {f : Figures} (h : f.power ≤ 15) :
    (∃ before after, f.plain = before ++ '.' :: after ∧ before.length ≤ 16) ∨
      (f.isWhole = true ∧ f.plain.length ≤ 16) := by
  rcases hpower : f.power with k | k
  · rw [hpower] at h
    have hk : k ≤ 15 := Int.ofNat_le.mp h
    by_cases hlong : f.digits.length ≤ k + 1
    · -- zeros fill up to the point, which is not written here
      refine .inr ⟨?_, ?_⟩
      · rw [Figures.isWhole, hpower]
        exact decide_eq_true (by simp; omega)
      · rw [Figures.plain_of_le hpower hlong, List.length_append, List.length_replicate]
        omega
    · refine .inl ⟨_, _, Figures.plain_of_lt hpower (Nat.lt_of_not_le hlong), ?_⟩
      rw [List.length_take]
      omega
  · exact .inl ⟨_, _, Figures.plain_of_neg hpower, by simp⟩

/-- In the notation of JSON a point or an exponent follows at most 16 digits. -/
theorem exists_json_split (f : Figures) :
    ∃ before c after, f.json = before ++ c :: after ∧ before.length ≤ 16 ∧ (c = '.' ∨ c = 'e') := by
  unfold Figures.json
  split
  · next hpower =>
      rcases plain_cases hpower.2 with ⟨before, after, hplain, hlen⟩ | ⟨hwhole, hlen⟩
      · -- the point comes before what the notation may add
        split
        · refine ⟨before, '.', after ++ ['.', '0'], ?_, hlen, .inl rfl⟩
          rw [hplain, List.append_assoc, List.cons_append]
        · exact ⟨before, '.', after, hplain, hlen, .inl rfl⟩
      · rw [if_pos hwhole]
        exact ⟨f.plain, '.', ['0'], rfl, hlen, .inl rfl⟩
  · unfold Figures.scientific
    match f.digits with
    | [] => exact ⟨[], 'e', _, rfl, by simp, .inr rfl⟩
    | [first] => exact ⟨[first], 'e', _, rfl, by simp, .inr rfl⟩
    | first :: second :: rest => exact ⟨[first], '.', _, rfl, by simp, .inl rfl⟩

theorem hasShortWhole_json (negative : Bool) (f : Figures) :
    HasShortWhole (signed negative f.json) := by
  obtain ⟨before, c, after, hsplit, hlen, hc⟩ := exists_json_split f
  have hsigned := length_signed negative before
  have hend : ¬ (c = '-' ∨ c.isDigit = true) := by
    rcases hc with rfl | rfl <;> decide
  rw [hsplit, NumberScan.signed_append]
  exact hasShortWhole_append (by omega) hend after

namespace NumberForm

variable {f : NumberForm}

theorem length_whole_le (h : HasShortWhole f.text) : f.whole.length ≤ 21 := by
  have hsigned : (signed f.negative f.whole).length ≤ 21 := by
    refine h _ _ rfl fun c hc => ?_
    unfold signed at hc
    split at hc
    · exact (List.mem_cons.mp hc).imp_right (f.isWhole.isDigit c)
    · exact .inr (f.isWhole.isDigit c hc)
  cases hsign : f.negative <;> simp [hsign, signed] at hsigned <;> omega

/-- Of a short whole part few digits are left out. -/
theorem exponent_significand_le (h : HasShortWhole f.text) :
    f.scan.significand.exponent ≤ 21 := by
  obtain ⟨whole, wholeRest, hwhole⟩ := exists_holds f.whole (Nat.two_pow_pos 64)
  obtain ⟨fraction, fractionRest, hfraction⟩ := exists_holds (f.fraction.getD []) hwhole.kept_lt
  have hshort := length_whole_le h
  have hlen := congrArg List.length hwhole.append_eq
  rw [List.length_append] at hlen
  rw [(f.scan_significand hwhole hfraction).2]
  omega

end NumberForm

/-! ## Numbers in range -/

namespace NumberScan

theorem isSome_float?_iff {s : NumberScan} :
    s.float?.isSome ↔ (Magnitude.scaled? s.significand.value s.exponent).isSome := by
  rw [float?, Option.isSome_map]

theorem isSome_scalar?_of_float? {s : NumberScan} (h : s.float?.isSome) : s.scalar?.isSome := by
  unfold scalar?
  split_ifs
  all_goals first | rfl | exact h

theorem isSome_scalar?_of_exponent_le {s : NumberScan} (h : s.exponent ≤ 200) :
    s.scalar?.isSome :=
  isSome_scalar?_of_float?
    (isSome_float?_iff.mpr (Magnitude.isSome_scaled? s.significand.value_lt h))

/-- More digits of an exponent make it at least ten times as great. -/
theorem exists_power_of_feed? {s next : NumberScan} (hpart : s.part = .power) {text : List Char}
    (h : s.feed? text = some next) :
    next = s ∨ ∃ power, 10 * s.power ≤ power ∧ next = { s with power := power } := by
  induction text generalizing s with
  | nil => exact .inl (Option.some.inj h).symm
  | cons c text ih =>
      right
      by_cases hc : c.isDigit = true
      · have hstep : s.step c = .more (s.addPower c) := by simp [step, hpart, hc]
        have hadd : s.addPower c = { s with power := 10 * s.power + digitValue c } := by
          rw [addPower, ← hpart]
        rw [feed?_cons hstep] at h
        rcases ih rfl h with rfl | ⟨power, hle, rfl⟩
        · exact ⟨10 * s.power + digitValue c, Nat.le_add_right _ _, hadd⟩
        · rw [hadd] at hle ⊢
          have hmore : 10 * s.power ≤ 10 * (10 * s.power + digitValue c) := by omega
          exact ⟨power, hmore.trans hle, rfl⟩
      · simp [feed?, step, hpart, hc] at h

/-- A number that is cut inside its exponent stays in range. -/
theorem isSome_scalar?_of_feed? {s next : NumberScan} (hpart : s.part = .power)
    (hshort : s.significand.exponent ≤ 21) {text : List Char} (h : s.feed? text = some next)
    (hnext : next.scalar?.isSome) : s.scalar?.isSome := by
  rcases exists_power_of_feed? hpart h with rfl | ⟨power, hle, rfl⟩
  · exact hnext
  cases hsign : s.powerNegative with
  | true =>
      -- the exponent makes the number smaller
      refine isSome_scalar?_of_exponent_le ?_
      rw [exponent, if_pos hsign]
      omega
  | false =>
      have hfloat : ({ s with power := power } : NumberScan).float?.isSome := by
        have hinteger : ({ s with power := power } : NumberScan).isInteger = false := by
          simp [isInteger, hpart]
        rwa [scalar?, if_neg (by rw [hinteger]; decide)] at hnext
      have hexponent : ({ s with power := power } : NumberScan).exponent =
          s.significand.exponent + power := by
        simp [exponent, hsign]
      rw [isSome_float?_iff, hexponent] at hfloat
      rcases Magnitude.eq_zero_or_le_of_scaled? hfloat with hzero | hrange
      · refine isSome_scalar?_of_float? (isSome_float?_iff.mpr ?_)
        show (Magnitude.scaled? s.significand.value s.exponent).isSome
        rw [show s.significand.value = 0 from hzero, Magnitude.scaled?_zero]
        rfl
      · refine isSome_scalar?_of_exponent_le ?_
        rw [exponent, hsign, if_neg Bool.false_ne_true]
        omega

/-- What is left of a number that is cut short is not too large, if its whole part is short. -/
theorem isSome_scalar?_of_append {text more : List Char} {s : NumberScan} {value : Scalar}
    (hshort : HasShortWhole text) (hread : ofText? text = some s) (hcomplete : s.isComplete = true)
    (hall : IsNumberText (text ++ more) value) : s.scalar?.isSome := by
  obtain ⟨f, rfl, rfl⟩ := exists_form hread hcomplete
  have hexponent := NumberForm.exponent_significand_le hshort
  cases hpower : f.power with
  | none =>
      refine isSome_scalar?_of_exponent_le ?_
      rw [f.scan_exponent, NumberForm.exponent, hpower, Option.elim_none]
      omega
  | some p =>
      obtain ⟨last, hlast, -, hvalue⟩ := hall
      rw [ofText?_append hread] at hlast
      refine isSome_scalar?_of_feed? ?_ hexponent hlast (by rw [hvalue]; rfl)
      rw [NumberForm.scan, hpower]
      rfl

end NumberScan

end SqlFilter.Json
