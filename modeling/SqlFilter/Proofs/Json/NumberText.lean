import SqlFilter.Proofs.Json.Significand

set_option autoImplicit false

/-! # Following the scan of a number

`NumberScan.feed?` follows a scan through characters that all belong to the number. Each part of a
number is followed as a whole: what the scan is after the digits in front of the point, after those
behind it, and after the exponent. `IsNumberText` holds of the texts that are scanned to their end,
and says what they are read as.
-/

namespace SqlFilter.Json

open Binary64 (signed digitValue)

namespace NumberScan

/-! ## Following a scan -/

/-- The scan after a text that belongs to the number as a whole. -/
def feed? (s : NumberScan) : List Char → Option NumberScan
  | [] => some s
  | c :: rest =>
    match s.step c with
    | .more next => next.feed? rest
    | .over | .bad => none

theorem feed?_cons {s next : NumberScan} {c : Char} (h : s.step c = .more next)
    (rest : List Char) : s.feed? (c :: rest) = next.feed? rest := by
  rw [feed?, h]

theorem feed?_append {s next : NumberScan} {first : List Char} (h : s.feed? first = some next)
    (second : List Char) : s.feed? (first ++ second) = next.feed? second := by
  induction first generalizing s with
  | nil =>
      obtain rfl : s = next := Option.some.inj h
      rfl
  | cons c first ih =>
      rw [feed?] at h
      split at h
      · next after hstep =>
          rw [List.cons_append, feed?_cons hstep]
          exact ih h
      · exact absurd h (by simp)
      · exact absurd h (by simp)

/-- The scan of a text from its first character on. -/
def ofText? : List Char → Option NumberScan
  | [] => none
  | c :: rest => if c = '-' ∨ c.isDigit then (start c).feed? rest else none

theorem ofText?_append {text : List Char} {s : NumberScan} (h : ofText? text = some s)
    (more : List Char) : ofText? (text ++ more) = s.feed? more := by
  cases text with
  | nil => exact absurd h (by simp [ofText?])
  | cons c rest =>
      rw [ofText?] at h
      rw [List.cons_append, ofText?]
      split at h
      · next hc => rw [if_pos hc, feed?_append h]
      · exact absurd h (by simp)

/-! ## Digits -/

/-- Digits that leave a scan in its part are added one by one. -/
theorem feed?_digits {α : Type} (scan : α → NumberScan) (add : α → Char → α)
    (hstep : ∀ m c, c.isDigit = true → (scan m).step c = .more (scan (add m c)))
    {digits : List Char} (hdigits : ∀ c ∈ digits, c.isDigit = true) (m : α) :
    (scan m).feed? digits = some (scan (digits.foldl add m)) := by
  induction digits generalizing m with
  | nil => rfl
  | cons c digits ih =>
      have hc : c.isDigit = true := hdigits c List.mem_cons_self
      rw [feed?_cons (hstep m c hc), ih fun d hd => hdigits d (List.mem_cons_of_mem c hd),
        List.foldl_cons]

/-- The scan of a whole number. -/
def ofWhole (negative : Bool) (digits : List Char) : NumberScan :=
  ⟨if digits = ['0'] then .zero else .whole, negative, digits.foldl Significand.addWhole .zero,
    false, 0⟩

theorem ofText?_whole (negative : Bool) {digits : List Char} (h : IsWhole digits) :
    ofText? (signed negative digits) = some (ofWhole negative digits) := by
  cases digits with
  | nil => exact absurd rfl h.ne_nil
  | cons c rest =>
      have hc : c.isDigit = true := h.isDigit c List.mem_cons_self
      have hrest : ∀ d ∈ rest, d.isDigit = true := fun d hd =>
        h.isDigit d (List.mem_cons_of_mem c hd)
      by_cases hzero : c = '0'
      · -- nothing follows a zero in front
        subst hzero
        rw [h.zero_of_head rfl]
        cases negative
        · rfl
        · rfl
      · have hne : c :: rest ≠ ['0'] := fun heq => hzero (List.head_eq_of_cons_eq heq)
        have hfeed := feed?_digits (fun m => ⟨.whole, negative, m, false, 0⟩) Significand.addWhole
          (fun m d hd => by simp [step, hd, addWhole]) hrest (Significand.zero.addWhole c)
        rw [ofWhole, if_neg hne, List.foldl_cons]
        cases negative with
        | false =>
            have hstart : start c = ⟨.whole, false, Significand.zero.addWhole c, false, 0⟩ := by
              have hsign : c ≠ '-' := by
                rintro rfl
                exact absurd hc (by decide)
              rw [start, if_neg hsign, if_neg hzero]
            show ofText? (c :: rest) = _
            rw [ofText?, if_pos (.inr hc), hstart, hfeed]
        | true =>
            have hstep : (start '-').step c =
                .more ⟨.whole, true, Significand.zero.addWhole c, false, 0⟩ := by
              simp [start, step, hzero, hc, addWhole]
            show ofText? ('-' :: c :: rest) = _
            rw [ofText?, if_pos (.inl rfl), feed?_cons hstep, hfeed]

/-! ## Fractions and exponents -/

/-- The scan of a number with a fraction. -/
def ofFraction (negative : Bool) (whole fraction : List Char) : NumberScan :=
  ⟨.fraction, negative,
    fraction.foldl Significand.addFraction (whole.foldl Significand.addWhole .zero).point, false, 0⟩

theorem feed?_fraction (negative : Bool) (whole : List Char) {fraction : List Char}
    (hne : fraction ≠ []) (hdigits : ∀ c ∈ fraction, c.isDigit = true) :
    (ofWhole negative whole).feed? ('.' :: fraction) =
      some (ofFraction negative whole fraction) := by
  have hpoint : (ofWhole negative whole).step '.' =
      .more ⟨.point, negative, (whole.foldl Significand.addWhole .zero).point, false, 0⟩ := by
    rw [ofWhole]
    split
    · rfl
    · rfl
  rw [feed?_cons hpoint]
  cases fraction with
  | nil => exact absurd rfl hne
  | cons c rest =>
      have hc : c.isDigit = true := hdigits c List.mem_cons_self
      -- the first digit leads from the point into the fraction, the others stay there
      have hfirst : ∀ m, (⟨.point, negative, m, false, 0⟩ : NumberScan).step c =
          .more ⟨.fraction, negative, m.addFraction c, false, 0⟩ := by
        intro m
        simp [step, hc, addFraction]
      have hfeed := feed?_digits (fun m => ⟨.fraction, negative, m, false, 0⟩)
        Significand.addFraction (fun m d hd => by simp [step, hd, addFraction])
        (fun d hd => hdigits d (List.mem_cons_of_mem c hd))
      rw [feed?_cons (hfirst _), hfeed, ofFraction, List.foldl_cons]

/-- The scan with an exponent. -/
def withExponent (s : NumberScan) (negative : Bool) (digits : List Char) : NumberScan :=
  { s with part := .power, powerNegative := negative, power := Nat.ofDigitChars 10 digits 0 }

theorem feed?_power {s : NumberScan} (hcomplete : s.isComplete = true) (hpart : s.part ≠ .power)
    (hnegative : s.powerNegative = false) (hpower : s.power = 0) (p : PowerForm) :
    s.feed? p.text = some (s.withExponent p.negative p.digits) := by
  obtain ⟨part, sign, m, powerNegative, power⟩ := s
  obtain rfl : powerNegative = false := hnegative
  obtain rfl : power = 0 := hpower
  obtain ⟨upper, negative?, digits, hne, hdigits⟩ := p
  have hmark : (⟨part, sign, m, false, 0⟩ : NumberScan).step (if upper then 'E' else 'e') =
      .more ⟨.mark, sign, m, false, 0⟩ := by
    cases part
    case zero => cases upper <;> rfl
    case whole => cases upper <;> rfl
    case fraction => cases upper <;> rfl
    case power => exact absurd rfl hpart
    all_goals exact absurd hcomplete (by simp [isComplete])
  rw [PowerForm.text, feed?_cons hmark]
  cases digits with
  | nil => exact absurd rfl hne
  | cons c rest =>
      have hc : c.isDigit = true := hdigits c List.mem_cons_self
      have hfeed (negative : Bool) :=
        feed?_digits (fun power => ⟨.power, sign, m, negative, power⟩)
          (fun power d => 10 * power + digitValue d)
          (fun power d hd => by simp [step, hd, addPower])
          (fun d hd => hdigits d (List.mem_cons_of_mem c hd)) (digitValue c)
      cases negative? with
      | none =>
          -- the first digit follows the mark, and it is no sign
          have hfirst : (⟨.mark, sign, m, false, 0⟩ : NumberScan).step c =
              .more ⟨.power, sign, m, false, digitValue c⟩ := by
            have hplus : c ≠ '+' := by
              rintro rfl
              exact absurd hc (by decide)
            have hminus : c ≠ '-' := by
              rintro rfl
              exact absurd hc (by decide)
            simp [step, hplus, hminus, hc, addPower]
          show feed? _ (c :: rest) = _
          rw [feed?_cons hfirst, hfeed, withExponent, Nat.ofDigitChars_cons, Nat.mul_zero,
            Nat.zero_add]
          rfl
      | some negative =>
          have hsign : (⟨.mark, sign, m, false, 0⟩ : NumberScan).step
              (if negative then '-' else '+') = .more ⟨.markSign, sign, m, negative, 0⟩ := by
            cases negative
            · rfl
            · rfl
          have hfirst : (⟨.markSign, sign, m, negative, 0⟩ : NumberScan).step c =
              .more ⟨.power, sign, m, negative, digitValue c⟩ := by
            simp [step, hc, addPower]
          show feed? _ (_ :: c :: rest) = _
          rw [feed?_cons hsign, feed?_cons hfirst, hfeed, withExponent, Nat.ofDigitChars_cons,
            Nat.mul_zero, Nat.zero_add]
          rfl

theorem signed_append (negative : Bool) (first second : List Char) :
    signed negative (first ++ second) = signed negative first ++ second := by
  cases negative
  · rfl
  · rfl

end NumberScan

/-! ## Constants -/

/-- A number is an integer, which is unsigned only above the signed ones, or a finite double. -/
theorem NumberScan.scalar?_cases {s : NumberScan} {value : Scalar} (h : s.scalar? = some value) :
    (∃ n, value = .int n) ∨ (∃ n : UInt64, value = .uint n ∧ 2 ^ 63 ≤ n.toNat) ∨
      ∃ negative x, value = .float (.finite negative x) := by
  have hfloat : s.float? = some value → ∃ negative x, value = .float (.finite negative x) := by
    intro hread
    obtain ⟨x, -, rfl⟩ := Option.map_eq_some_iff.mp hread
    exact ⟨_, x, rfl⟩
  rw [scalar?] at h
  split at h
  · split at h
    · split at h
      · exact .inl ⟨_, (Option.some.inj h).symm⟩
      · exact .inr (.inr (hfloat h))
    · split at h
      · exact .inl ⟨_, (Option.some.inj h).symm⟩
      · next hlarge =>
          have hvalue : (UInt64.ofNat s.significand.value).toNat = s.significand.value :=
            UInt64.toNat_ofNat_of_lt' s.significand.value_lt
          refine .inr (.inl ⟨_, (Option.some.inj h).symm, ?_⟩)
          rw [hvalue]
          exact Nat.not_lt.mp hlarge
  · exact .inr (.inr (hfloat h))

/-- A text that reads as a number, with its value. -/
def IsNumberText (text : List Char) (value : Scalar) : Prop :=
  ∃ s, NumberScan.ofText? text = some s ∧ s.isComplete = true ∧ s.scalar? = some value

end SqlFilter.Json
