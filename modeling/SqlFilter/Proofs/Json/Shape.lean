import SqlFilter.Json.Writer
import Mathlib.Tactic

set_option autoImplicit false

/-! # The shape of a written document

Equations of the writer in the form in which a reader meets the text: an opening bracket, the first
item, each further item behind its comma, the closing bracket. A side of a node that is absent
leaves no text.
-/

namespace SqlFilter

namespace Json

/-- What the writer does with a character: a control, the quote, the backslash, or any other, which
stands for itself. -/
theorem escapeChar_cases (c : Char) :
    (∃ n < 0x20, c = Char.ofNat n) ∨ c = '"' ∨ c = '\\' ∨
      (escapeChar c = [c] ∧ ¬ c.toNat < 0x20 ∧ c ≠ '"' ∧ c ≠ '\\') := by
  by_cases hcontrol : c.toNat < 0x20
  · exact .inl ⟨c.toNat, hcontrol, (Char.ofNat_toNat c).symm⟩
  · by_cases hquote : c = '"'
    · exact .inr (.inl hquote)
    · by_cases hbackslash : c = '\\'
      · exact .inr (.inr (.inl hbackslash))
      · refine .inr (.inr (.inr ⟨?_, hcontrol, hquote, hbackslash⟩))
        have hne : ∀ d : Char, d.toNat < 0x20 → c ≠ d := by
          rintro d hd rfl
          exact hcontrol hd
        rw [escapeChar, if_neg hquote, if_neg hbackslash, if_neg (by omega), if_neg (by omega),
          if_neg (hne '\n' (by decide)), if_neg (hne '\r' (by decide)),
          if_neg (hne '\t' (by decide)), if_neg hcontrol]

/-- Items with a comma in front of each. -/
def followers (items : List (List Char)) : List Char :=
  items.flatMap (',' :: ·)

@[simp] theorem followers_nil : followers [] = [] := rfl

@[simp] theorem followers_cons (item : List Char) (rest : List (List Char)) :
    followers (item :: rest) = ',' :: (item ++ followers rest) := rfl

theorem followers_append (first second : List (List Char)) :
    followers (first ++ second) = followers first ++ followers second :=
  List.flatMap_append

theorem commas_cons (item : List Char) (rest : List (List Char)) :
    commas (item :: rest) = item ++ followers rest := by
  induction rest generalizing item with
  | nil => rw [commas, followers_nil, List.append_nil]
  | cons second rest ih =>
      show item ++ ',' :: commas (second :: rest) = _
      rw [ih, followers_cons]

theorem list_cons (item : List Char) (rest : List (List Char)) :
    list (item :: rest) = '[' :: (item ++ followers rest ++ [']']) := by
  rw [list, commas_cons]

end Json

open Json

/-- The text of a side of a node, behind the members before it. -/
def Operand.sideText (key : String) (operand : Operand) : List Char :=
  followers (sideMember key operand operand.writeJson)

theorem Operand.sideText_of_isAbsent (key : String) {operand : Operand}
    (h : operand.isAbsent = true) : operand.sideText key = [] := by
  rw [sideText, sideMember, if_pos h, followers_nil]

theorem Operand.sideText_of_not_isAbsent (key : String) {operand : Operand}
    (h : operand.isAbsent = false) :
    operand.sideText key = ',' :: member key operand.writeJson := by
  rw [sideText, sideMember, if_neg (by rw [h]; decide), followers_cons, followers_nil,
    List.append_nil]

theorem Expr.writeJson_node (op : Operator) (left right : Operand) :
    (Expr.node op left right).writeJson =
      '\x7b' :: (member "op" op.writeJson ++ left.sideText "left" ++ right.sideText "right" ++
        ['\x7d']) := by
  rw [writeJson, object, commas_cons, followers_append, ← List.append_assoc]
  rfl

/-- The text of a range boundary, member by member. -/
theorem Boundary.writeJson_eq (b : Boundary) :
    b.writeJson =
      '\x7b' :: (member "min" (writeString b.min) ++
        (',' :: (member "max" (writeString b.max) ++
          (',' :: member "inclusive" (writeBool b.inclusive)))) ++ ['\x7d']) := by
  rw [writeJson, object, commas_cons, followers_cons, followers_cons, followers_nil,
    List.append_nil]

end SqlFilter
