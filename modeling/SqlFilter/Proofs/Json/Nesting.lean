import SqlFilter.Proofs.Json.WrittenNumber
import SqlFilter.Proofs.Json.Shape
import Mathlib.Tactic

set_option autoImplicit false

/-! # The nesting of a JSON document

`Json.nesting` counts on the text alone how many brackets and braces stand inside one another; those
inside strings do not count. `Expr.nesting` counts them on the tree, and the two agree on every
document that was written (`Expr.nesting_toJson`). A text that is balanced by itself raises the count
of what it stands in by a fixed number (`Nests`), so the agreement is put together from the parts of
the document.
-/

namespace SqlFilter.Json

/-! ## Counting on the text -/

/-- Where a character stands: outside of strings, inside one, or after a backslash inside one. -/
inductive Quotation where
  | outside
  | inside
  | escaped
  deriving DecidableEq, Repr

/-- A text as far as it has been counted: the brackets and braces that are open, and the most that
were open at once. -/
structure Level where
  quotation : Quotation
  opened : Nat
  most : Nat
  deriving DecidableEq, Repr

/-- One more character. -/
def Level.step (l : Level) (c : Char) : Level :=
  match l.quotation with
  | .escaped => { l with quotation := .inside }
  | .inside =>
    if c = '\\' then { l with quotation := .escaped }
    else if c = '"' then { l with quotation := .outside }
    else l
  | .outside =>
    if c = '"' then { l with quotation := .inside }
    else if c = '[' ∨ c = '\x7b' then ⟨.outside, l.opened + 1, max l.most (l.opened + 1)⟩
    else if c = ']' ∨ c = '\x7d' then { l with opened := l.opened - 1 }
    else l

/-- The greatest number of brackets and braces inside one another. -/
def nesting (document : String) : Nat :=
  (document.toList.foldl Level.step ⟨.outside, 0, 0⟩).most

/-! ## Balanced texts -/

/-- The text closes what it opens, and nests `n` deep. -/
def Nests (text : List Char) (n : Nat) : Prop :=
  ∀ opened most, opened ≤ most →
    text.foldl Level.step ⟨.outside, opened, most⟩ = ⟨.outside, opened, max most (opened + n)⟩

/-- A text that leaves the count as it is. -/
theorem nests_of_foldl {text : List Char}
    (h : ∀ opened most, text.foldl Level.step ⟨.outside, opened, most⟩ = ⟨.outside, opened, most⟩) :
    Nests text 0 := by
  intro opened most hle
  rw [h, Nat.add_zero, Nat.max_eq_left hle]

theorem nests_nil : Nests [] 0 :=
  nests_of_foldl fun _ _ => rfl

theorem Nests.append {first second : List Char} {m n : Nat} (h₁ : Nests first m)
    (h₂ : Nests second n) : Nests (first ++ second) (max m n) := by
  intro opened most hle
  have hle' : opened ≤ max most (opened + m) := Nat.le_trans hle (Nat.le_max_left _ _)
  rw [List.foldl_append, h₁ opened most hle, h₂ opened _ hle', Nat.max_assoc,
    Nat.add_max_add_left]

/-- A character that is no quote and no bracket leaves the count as it is. -/
theorem Nests.cons {c : Char} (hc : c ∉ ['"', '[', ']', '\x7b', '\x7d']) {text : List Char} {n : Nat}
    (h : Nests text n) : Nests (c :: text) n := by
  intro opened most hle
  have hstep : Level.step ⟨.outside, opened, most⟩ c = ⟨.outside, opened, most⟩ := by
    simp only [List.mem_cons, List.not_mem_nil, or_false, not_or] at hc
    obtain ⟨h₁, h₂, h₃, h₄, h₅⟩ := hc
    simp only [Level.step, h₁, h₂, h₃, h₄, h₅, or_self, if_false]
  rw [List.foldl_cons, hstep]
  exact h opened most hle

/-- A text without quotes and brackets. -/
theorem nests_of_solid {text : List Char}
    (h : ∀ c ∈ text, c ∉ ['"', '[', ']', '\x7b', '\x7d']) : Nests text 0 := by
  induction text with
  | nil => exact nests_nil
  | cons c text ih =>
      exact (ih fun d hd => h d (List.mem_cons_of_mem c hd)).cons (h c List.mem_cons_self)

/-- Brackets or braces around a text. -/
theorem Nests.bracket {text : List Char} {n : Nat} (h : Nests text n) {left right : Char}
    (hleft : left = '[' ∨ left = '\x7b') (hright : right = ']' ∨ right = '\x7d') :
    Nests (left :: (text ++ [right])) (n + 1) := by
  intro opened most hle
  have hopen : Level.step ⟨.outside, opened, most⟩ left =
      ⟨.outside, opened + 1, max most (opened + 1)⟩ := by
    rcases hleft with rfl | rfl
    · rfl
    · rfl
  have hclose : ∀ m, Level.step ⟨.outside, opened + 1, m⟩ right = ⟨.outside, opened, m⟩ := by
    intro m
    rcases hright with rfl | rfl
    · rfl
    · rfl
  rw [List.foldl_cons, hopen, List.foldl_append, h _ _ (Nat.le_max_right _ _), List.foldl_cons,
    List.foldl_nil, hclose]
  refine congrArg (Level.mk .outside opened) ?_
  omega

/-! ## Strings and numbers -/

/-- An escaped character does not end the string. -/
theorem foldl_escapeChar (opened most : Nat) (c : Char) :
    (escapeChar c).foldl Level.step ⟨.inside, opened, most⟩ = ⟨.inside, opened, most⟩ := by
  rcases escapeChar_cases c with ⟨n, hn, rfl⟩ | rfl | rfl | ⟨htext, -, hquote, hbackslash⟩
  · interval_cases n <;> rfl
  · rfl
  · rfl
  · rw [htext, List.foldl_cons, List.foldl_nil, Level.step]
    dsimp only
    rw [if_neg hbackslash, if_neg hquote]

theorem nests_writeString (s : String) : Nests (writeString s) 0 := by
  refine nests_of_foldl fun opened most => ?_
  have hbody : ∀ chars : List Char,
      (chars.flatMap escapeChar).foldl Level.step ⟨.inside, opened, most⟩ =
        ⟨.inside, opened, most⟩ := by
    intro chars
    induction chars with
    | nil => rfl
    | cons c chars ih => rw [List.flatMap_cons, List.foldl_append, foldl_escapeChar, ih]
  have hopen : Level.step ⟨.outside, opened, most⟩ '"' = ⟨.inside, opened, most⟩ := rfl
  have hclose : Level.step ⟨.inside, opened, most⟩ '"' = ⟨.outside, opened, most⟩ := rfl
  rw [writeString, List.foldl_cons, hopen, List.foldl_append, hbody, List.foldl_cons,
    List.foldl_nil, hclose]

/-- A character that belongs to a number is neither a quote nor a bracket. -/
theorem NumberScan.not_mem_of_step {s next : NumberScan} {c : Char} (h : s.step c = .more next) :
    c ∉ ['"', '[', ']', '\x7b', '\x7d'] := by
  intro hc
  obtain ⟨part, negative, significand, powerNegative, power⟩ := s
  simp only [List.mem_cons, List.not_mem_nil, or_false] at hc
  rcases hc with rfl | rfl | rfl | rfl | rfl <;>
    cases part <;> exact absurd h (by simp [step, isMark])

theorem NumberScan.not_mem_of_feed? {s next : NumberScan} {text : List Char}
    (h : s.feed? text = some next) : ∀ c ∈ text, c ∉ ['"', '[', ']', '\x7b', '\x7d'] := by
  induction text generalizing s with
  | nil =>
      intro c hc
      exact absurd hc List.not_mem_nil
  | cons d text ih =>
      rw [feed?] at h
      split at h
      · next after hstep =>
          intro c hc
          rcases List.mem_cons.mp hc with rfl | hc
          · exact not_mem_of_step hstep
          · exact ih h c hc
      · exact absurd h (by simp)
      · exact absurd h (by simp)

/-- A number that is scanned to its end. -/
theorem nests_of_ofText? {text : List Char} {s : NumberScan} (h : NumberScan.ofText? text = some s) :
    Nests text 0 := by
  cases text with
  | nil => exact nests_nil
  | cons c rest =>
      rw [NumberScan.ofText?] at h
      split at h
      · next hc =>
          have hfirst : c ∉ ['"', '[', ']', '\x7b', '\x7d'] := by
            rcases hc with rfl | hc
            · decide
            · intro hmem
              simp only [List.mem_cons, List.not_mem_nil, or_false] at hmem
              rcases hmem with rfl | rfl | rfl | rfl | rfl <;> exact absurd hc (by decide)
          exact (nests_of_solid (NumberScan.not_mem_of_feed? h)).cons hfirst
      · exact absurd h (by simp)

theorem IsNumberText.nests {text : List Char} {value : Scalar} (h : IsNumberText text value) :
    Nests text 0 := by
  obtain ⟨s, hread, -, -⟩ := h
  exact nests_of_ofText? hread

theorem Nests.member {value : List Char} {n : Nat} (h : Nests value n) (key : String) :
    Nests (member key value) n := by
  have hcolon : Nests (':' :: value) n := h.cons (by decide)
  have htext := (nests_writeString key).append hcolon
  rw [Nat.zero_max] at htext
  exact htext

end SqlFilter.Json

namespace SqlFilter

open Json

/-! ## Counting on the tree -/

mutual

/-- How deep the text of a tree nests. -/
def Expr.nesting : Expr → Nat
  | .node _ left right => max left.nesting right.nesting + 1

/-- How deep the text of an operand nests. A list and a range boundary stand in a bracket of their
own inside the braces of the operand. -/
def Operand.nesting : Operand → Nat
  | .absent => 0
  | .expr tree => tree.nesting + 1
  | .list items => Expr.nestings items + 2
  | .range _ => 2
  | .column _ | .value _ => 1

/-- How deep the text of the deepest of several trees nests. -/
def Expr.nestings : List Expr → Nat
  | [] => 0
  | item :: rest => max item.nesting (Expr.nestings rest)

end

theorem nests_null : Nests "null".toList 0 :=
  nests_of_foldl fun _ _ => rfl

theorem Scalar.nests_writeJson (s : Scalar) : Nests s.writeJson 0 := by
  cases s with
  | bool value =>
      cases value
      · exact nests_of_foldl fun _ _ => rfl
      · exact nests_of_foldl fun _ _ => rfl
  | int value => exact (isNumberText_int value).nests
  | uint value => exact (isNumberText_uint value).nests
  | float value =>
      cases value with
      | nan => exact nests_null
      | infinite _ => exact nests_null
      | finite negative x =>
          obtain ⟨form, htext, -⟩ := Scalar.exists_form negative x
          rw [htext]
          exact nests_of_ofText? form.ofText?_text
  | string value => exact nests_writeString value

theorem Boundary.nests_writeJson (b : Boundary) : Nests b.writeJson 1 := by
  have hmin : Nests (member "min" (writeString b.min)) 0 := (nests_writeString b.min).member _
  have hmax : Nests (',' :: member "max" (writeString b.max)) 0 :=
    ((nests_writeString b.max).member _).cons (by decide)
  have hinclusive : Nests (',' :: member "inclusive" (writeBool b.inclusive)) 0 :=
    ((Scalar.bool b.inclusive).nests_writeJson.member _).cons (by decide)
  rw [writeJson_eq]
  exact (hmin.append (hmax.append hinclusive)).bracket (.inr rfl) (.inr rfl)

theorem Operand.nests_sideText (key : String) {operand : Operand}
    (h : Nests operand.writeJson operand.nesting) :
    Nests (operand.sideText key) operand.nesting := by
  cases habsent : operand.isAbsent with
  | true =>
      rw [sideText_of_isAbsent key habsent]
      cases operand <;> first | exact nests_nil | exact absurd habsent Bool.false_ne_true
  | false =>
      rw [sideText_of_not_isAbsent key habsent]
      exact (h.member key).cons (by decide)

theorem nests_object {key : String} {value : List Char} {n : Nat} (h : Nests value n) :
    Nests (object [member key value]) (n + 1) :=
  (h.member key).bracket (.inr rfl) (.inr rfl)

theorem nests_list {items : List (List Char)} {n : Nat} (h : Nests (followers items) n) :
    Nests (Json.list items) (n + 1) := by
  have hitems : Nests (commas items) n := by
    cases items with
    | nil => exact h
    | cons item rest =>
        -- the comma in front of the first item leaves the count as it is
        rw [commas_cons]
        intro opened most hle
        exact h opened most hle
  exact hitems.bracket (.inl rfl) (.inl rfl)

mutual

theorem Expr.nests_writeJson (e : Expr) : Nests e.writeJson e.nesting := by
  cases e with
  | node op left right =>
      have hop : Nests (member "op" op.writeJson) 0 := (nests_writeString op.jsonName).member _
      have hleft := Operand.nests_sideText "left" left.nests_writeJson
      have hright := Operand.nests_sideText "right" right.nests_writeJson
      have hall := ((hop.append hleft).append hright).bracket (.inr rfl) (.inr rfl)
      rw [Expr.writeJson_node, Expr.nesting]
      rw [Nat.zero_max] at hall
      exact hall

theorem Operand.nests_writeJson (operand : Operand) : Nests operand.writeJson operand.nesting := by
  cases operand with
  | absent => exact nests_writeString "absent"
  | expr tree => exact nests_object tree.nests_writeJson
  | list items => exact nests_object (nests_list (Expr.nests_followers items))
  | range boundary => exact nests_object boundary.nests_writeJson
  | column column => exact nests_object (nests_writeString column.name)
  | value scalar => exact nests_object scalar.nests_writeJson

theorem Expr.nests_followers (items : List Expr) :
    Nests (followers (Expr.writeAllJson items)) (Expr.nestings items) := by
  cases items with
  | nil => exact nests_nil
  | cons item rest =>
      exact (item.nests_writeJson.append (Expr.nests_followers rest)).cons (by decide)

end

/-- The nesting of a written document is that of its tree. -/
theorem Expr.nesting_toJson (e : Expr) : Json.nesting e.toJson = e.nesting := by
  rw [Json.nesting, toJson, String.toList_ofList, e.nests_writeJson 0 0 (Nat.le_refl 0),
    Nat.zero_max, Nat.zero_add]

end SqlFilter
