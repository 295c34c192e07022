import SqlFilter.Json.Reader
import SqlFilter.Proofs.Json.NumberText
import SqlFilter.Proofs.Json.Shape
import Mathlib.Tactic

set_option autoImplicit false

/-! # The reader on parts of a written document

What the reader does with a string, a word and a number that the writer wrote, and with a member of
an object up to its value. A string and a word end with their last character; a number ends with
the character after it, which is white space, a comma, or a closing bracket or brace.
-/

namespace SqlFilter.Json

variable {ρ : Type}

/-! ## Strings -/

namespace TextScan

/-- The scan after a text inside a string that counts. -/
def feed? (s : TextScan) : List Char → Option TextScan
  | [] => some s
  | c :: rest =>
    match s.step true c with
    | .more next => next.feed? rest
    | .over _ | .bad _ => none

/-- An escaped character is read as the character. -/
theorem feed?_escapeChar (before : List Char) (c : Char) :
    feed? ⟨.plain, before⟩ (escapeChar c) = some ⟨.plain, c :: before⟩ := by
  rcases escapeChar_cases c with ⟨n, hn, rfl⟩ | rfl | rfl | ⟨htext, hcontrol, hquote, hbackslash⟩
  · -- the controls one by one: five of them have a letter of their own
    interval_cases n <;> rfl
  · rfl
  · rfl
  · have hstep : (⟨.plain, before⟩ : TextScan).step true c = .more ⟨.plain, c :: before⟩ := by
      simp only [step, if_neg hquote, if_neg hbackslash, if_neg hcontrol, push]
    rw [htext, feed?, hstep]
    rfl

end TextScan

theorem run_text_of_feed? {use : TextUse ρ} (huse : use.isChecked = true) {text : List Char}
    {s next : TextScan} (h : s.feed? text = some next) :
    (State.at (.text s use)).run text = .at (.text next use) := by
  induction text generalizing s with
  | nil =>
      obtain rfl : s = next := Option.some.inj h
      rfl
  | cons c text ih =>
      rw [TextScan.feed?] at h
      split at h
      · next after hstep =>
          have hstate : (State.at (.text s use)).step c = .at (.text after use) := by
            rw [State.step, Stage.step, huse, hstep]
          rw [State.run_cons, hstate]
          exact ih h
      · exact absurd h (by simp)
      · exact absurd h (by simp)

theorem run_escaped {use : TextUse ρ} (huse : use.isChecked = true) (chars before : List Char) :
    (State.at (.text ⟨.plain, before⟩ use)).run (chars.flatMap escapeChar) =
      .at (.text ⟨.plain, chars.reverse ++ before⟩ use) := by
  induction chars generalizing before with
  | nil => rfl
  | cons c chars ih =>
      rw [List.flatMap_cons, State.run_append,
        run_text_of_feed? huse (TextScan.feed?_escapeChar before c), ih, List.reverse_cons,
        List.append_assoc, List.singleton_append]

/-- A written string is read as the string. -/
theorem run_writeString {state : State ρ} {use : TextUse ρ} (huse : use.isChecked = true)
    (hquote : state.step '"' = .at (.text .start use)) (s : String) :
    state.run (writeString s) = .at (use.finish s) := by
  have hclose : (State.at (.text ⟨.plain, s.toList.reverse ++ []⟩ use)).step '"' =
      .at (use.finish s) := by
    rw [List.append_nil]
    show State.at (use.finish (String.ofList s.toList.reverse.reverse)) = _
    rw [List.reverse_reverse, String.ofList_toList]
  rw [writeString, State.run_cons, hquote, State.run_append, TextScan.start, run_escaped huse,
    State.run_cons, hclose, State.run_nil]

/-! ## Words -/

theorem run_writeBool (slot : Slot ρ) (value : Bool) :
    (State.at (.expecting (.slot slot))).run (writeBool value) =
      .at (slot.accept (.scalar (.bool value))) := by
  cases value
  · rfl
  · rfl

/-! ## Numbers -/

theorem run_number_of_feed? (slot : Slot ρ) {text : List Char} {s next : NumberScan}
    (h : s.feed? text = some next) :
    (State.number s slot).run text = .number next slot := by
  induction text generalizing s with
  | nil =>
      obtain rfl : s = next := Option.some.inj h
      rfl
  | cons c text ih =>
      rw [NumberScan.feed?] at h
      split at h
      · next after hstep =>
          have hstate : (State.number s slot).step c = .number after slot := by
            rw [State.step, hstep]
          rw [State.run_cons, hstate]
          exact ih h
      · exact absurd h (by simp)
      · exact absurd h (by simp)

theorem isSpace_iff (c : Char) :
    isSpace c = true ↔ c = ' ' ∨ c = '\n' ∨ c = '\t' ∨ c = '\r' := by
  simp [isSpace, or_assoc]

/-- The character may stand behind a value. -/
def IsDelimiter (c : Char) : Prop :=
  isSpace c = true ∨ c = ',' ∨ c = ']' ∨ c = '\x7d'

/-- A complete number ends before every character that may stand behind a value. -/
theorem NumberScan.step_of_isDelimiter {s : NumberScan} (h : s.isComplete = true) {c : Char}
    (hc : IsDelimiter c) : s.step c = .over := by
  rw [IsDelimiter, isSpace_iff] at hc
  obtain ⟨part, negative, significand, powerNegative, power⟩ := s
  rcases hc with (rfl | rfl | rfl | rfl) | rfl | rfl | rfl <;>
  · cases part
    case zero => rfl
    case whole => rfl
    case fraction => rfl
    case power => rfl
    all_goals exact absurd h (by simp [isComplete])

/-- A number begins with a character that begins nothing else. -/
theorem step_number (slot : Slot ρ) {c : Char} (hc : c = '-' ∨ c.isDigit = true) :
    (State.at (.expecting (.slot slot))).step c = .number (NumberScan.start c) slot := by
  -- everything else that begins a value, and white space, is no digit and no sign
  have hne : ∀ d : Char, d ≠ '-' → d.isDigit = false → c ≠ d := by
    rintro d hsign hdigit rfl
    rcases hc with hc | hc
    · exact hsign hc
    · exact Bool.false_ne_true (hdigit.symm.trans hc)
  have hspace : isSpace c = false := by
    rw [Bool.eq_false_iff]
    intro hspace
    rcases (isSpace_iff c).mp hspace with h | h | h | h
    · exact hne ' ' (by decide) (by decide) h
    · exact hne '\n' (by decide) (by decide) h
    · exact hne '\t' (by decide) (by decide) h
    · exact hne '\r' (by decide) (by decide) h
  show (if isSpace c then _ else slot.begin c) = _
  rw [hspace, if_neg Bool.false_ne_true, Slot.begin, if_neg (hne '"' (by decide) (by decide)),
    if_neg (hne '[' (by decide) (by decide)), if_neg (hne '\x7b' (by decide) (by decide)),
    if_neg (hne 'n' (by decide) (by decide)), if_neg (hne 't' (by decide) (by decide)),
    if_neg (hne 'f' (by decide) (by decide)), if_pos hc]

/-- A number ends at the character behind it, which then counts for itself. -/
theorem run_complete (slot : Slot ρ) {text : List Char} {s : NumberScan}
    (hread : NumberScan.ofText? text = some s) (hcomplete : s.isComplete = true) {c : Char}
    (hc : IsDelimiter c) :
    (State.at (.expecting (.slot slot))).run (text ++ [c]) =
      (State.at (slot.acceptNumber s)).step c := by
  cases text with
  | nil => exact absurd hread (by simp [NumberScan.ofText?])
  | cons d rest =>
      rw [NumberScan.ofText?] at hread
      split at hread
      · next hd =>
          have hend : (State.number s slot).step c = (State.at (slot.acceptNumber s)).step c := by
            simp only [State.step, NumberScan.step_of_isDelimiter hcomplete hc]
          rw [List.cons_append, State.run_cons, step_number slot hd, State.run_append,
            run_number_of_feed? slot hread, State.run_cons, hend, State.run_nil]
      · exact absurd hread (by simp)

/-- A number is read as its value. -/
theorem run_numberText (slot : Slot ρ) {text : List Char} {value : Scalar}
    (h : IsNumberText text value) {c : Char} (hc : IsDelimiter c) :
    (State.at (.expecting (.slot slot))).run (text ++ [c]) =
      (State.at (slot.accept (.scalar value))).step c := by
  obtain ⟨s, hread, hcomplete, hvalue⟩ := h
  rw [run_complete slot hread hcomplete hc, Slot.acceptNumber, hvalue]

/-! ## Members -/

/-- A member is read up to its value. -/
theorem run_member {state : State ρ} {use : TextUse ρ} {spot : Spot ρ}
    (huse : use.isChecked = true) (hquote : state.step '"' = .at (.text .start use))
    {key : String} (hkey : use.finish key = .colon spot) (value : List Char) :
    state.run (member key value) = (State.at (.expecting spot)).run value := by
  rw [member, State.run_append, run_writeString huse hquote, hkey, State.run_cons]
  rfl

end SqlFilter.Json
