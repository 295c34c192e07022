import SqlFilter.Query.Build
import SqlFilter.Proofs.Walk.FirstFailure

set_option autoImplicit false

/-! # Reading back the text of a range boundary

A boundary goes through text on its way to a condition: it is written with brackets around its
bounds, and the rule of ranges reads the brackets and the bounds off that text. `bounds?` finds the
one separator of a text: `bounds?_eq_some_iff` says that the two parts hold no separator of their
own, and then they are the only such parts, because a separator cannot begin inside another one.
So the bounds are read back as they were written, up to white space at their ends, or the whole
text is refused.
-/

namespace SqlFilter

namespace Boundary

/-! ## The separator -/

/-- A comma with a space after it stands somewhere in a text. -/
def HasSeparator (text : List Char) : Prop :=
  [',', ' '] <:+: text

instance (text : List Char) : Decidable (HasSeparator text) :=
  inferInstanceAs (Decidable ([',', ' '] <:+: text))

theorem not_hasSeparator_nil : ¬ HasSeparator [] := by
  intro h
  have hlen := h.length_le
  simp at hlen

theorem hasSeparator_cons_iff (c : Char) (text : List Char) :
    HasSeparator (c :: text) ↔ (c = ',' ∧ text.head? = some ' ') ∨ HasSeparator text := by
  rw [HasSeparator, List.infix_cons_iff, HasSeparator]
  refine or_congr ?_ Iff.rfl
  cases text with
  | nil => simp
  | cons d rest => simp [List.cons_prefix_cons, eq_comm]

theorem cut?_cons_cons (c : Char) (text : List Char) (h : ¬ (c = ',' ∧ text.head? = some ' ')) :
    cut? (c :: text) = (cut? text).map fun (before, after) => (c :: before, after) := by
  rw [cut?]
  rintro rest rfl rfl
  exact h ⟨rfl, rfl⟩

/-- The first separator is found behind a text that holds none. A comma at the end of that text
cannot make a separator with the one that follows. -/
theorem cut?_append_separator {before : List Char} (after : List Char)
    (h : ¬ HasSeparator before) :
    cut? (before ++ ',' :: ' ' :: after) = some (before, after) := by
  induction before with
  | nil => rfl
  | cons c rest ih =>
      rw [hasSeparator_cons_iff, not_or] at h
      -- `c` is followed by its own text or by the comma of the separator
      have hhead : ¬ (c = ',' ∧ (rest ++ ',' :: ' ' :: after).head? = some ' ') := by
        rintro ⟨hc, hspace⟩
        cases rest with
        | nil => cases hspace
        | cons d rest => exact h.1 ⟨hc, hspace⟩
      rw [List.cons_append, cut?_cons_cons c _ hhead, ih h.2]
      rfl

/-- What is found first stays found when the text goes on. -/
theorem cut?_append_of_eq_some {text before after : List Char} (rest : List Char)
    (h : cut? text = some (before, after)) :
    cut? (text ++ rest) = some (before, after ++ rest) := by
  induction text generalizing before with
  | nil => cases h
  | cons c text ih =>
      by_cases hsep : c = ',' ∧ text.head? = some ' '
      · obtain ⟨rfl, hspace⟩ := hsep
        cases text with
        | nil => cases hspace
        | cons d text =>
            obtain rfl := Option.some.inj hspace
            obtain ⟨rfl, rfl⟩ := Prod.mk.inj (Option.some.inj h)
            rfl
      · rw [cut?_cons_cons c text hsep, Option.map_eq_some_iff] at h
        obtain ⟨⟨before', after'⟩, hcut, heq⟩ := h
        obtain ⟨rfl, rfl⟩ := Prod.mk.inj heq
        have hsep' : ¬ (c = ',' ∧ (text ++ rest).head? = some ' ') := by
          rintro ⟨hc, hspace⟩
          cases text with
          | nil => cases hcut
          | cons d text => exact hsep ⟨hc, hspace⟩
        rw [List.cons_append, cut?_cons_cons c _ hsep', ih hcut]
        rfl

/-- A text is cut exactly around its first separator. -/
theorem cut?_eq_some_iff {text before after : List Char} :
    cut? text = some (before, after) ↔
      text = before ++ ',' :: ' ' :: after ∧ ¬ HasSeparator before := by
  constructor
  · intro h
    induction text generalizing before with
    | nil => cases h
    | cons c text ih =>
        by_cases hsep : c = ',' ∧ text.head? = some ' '
        · obtain ⟨rfl, hspace⟩ := hsep
          cases text with
          | nil => cases hspace
          | cons d text =>
              obtain rfl := Option.some.inj hspace
              obtain ⟨rfl, rfl⟩ := Prod.mk.inj (Option.some.inj h)
              exact ⟨rfl, not_hasSeparator_nil⟩
        · rw [cut?_cons_cons c text hsep, Option.map_eq_some_iff] at h
          obtain ⟨⟨before', after'⟩, hcut, heq⟩ := h
          obtain ⟨rfl, rfl⟩ := Prod.mk.inj heq
          obtain ⟨htext, hbefore⟩ := ih hcut
          refine ⟨by rw [htext]; rfl, ?_⟩
          rw [hasSeparator_cons_iff, not_or]
          refine ⟨?_, hbefore⟩
          rintro ⟨hc, hspace⟩
          refine hsep ⟨hc, ?_⟩
          -- behind an empty part stands the comma of the separator, not a space
          cases before' with
          | nil => cases hspace
          | cons d before' => rw [htext]; exact hspace
  · rintro ⟨rfl, h⟩
    exact cut?_append_separator after h

/-- A text is not cut exactly when it holds no separator. -/
theorem cut?_eq_none_iff (text : List Char) : cut? text = none ↔ ¬ HasSeparator text := by
  induction text with
  | nil => exact ⟨fun _ => not_hasSeparator_nil, fun _ => rfl⟩
  | cons c text ih =>
      by_cases hsep : c = ',' ∧ text.head? = some ' '
      · have hhas : HasSeparator (c :: text) := (hasSeparator_cons_iff c text).mpr (.inl hsep)
        obtain ⟨rfl, hspace⟩ := hsep
        cases text with
        | nil => cases hspace
        | cons d text =>
            obtain rfl := Option.some.inj hspace
            exact ⟨fun h => absurd h (by simp [cut?]), fun h => absurd hhas h⟩
      · rw [cut?_cons_cons c text hsep, Option.map_eq_none_iff, ih, hasSeparator_cons_iff, not_or]
        exact ⟨fun h => ⟨hsep, h⟩, fun h => h.2⟩

/-- The bounds in a text are its two parts around a separator that hold no separator themselves. -/
theorem bounds?_eq_some_iff {text min max : List Char} :
    bounds? text = some (min, max) ↔
      text = min ++ ',' :: ' ' :: max ∧ ¬ HasSeparator min ∧ ¬ HasSeparator max := by
  rw [bounds?]
  constructor
  · intro h
    obtain ⟨⟨before, after⟩, hcut, hone⟩ := Option.bind_eq_some_iff.mp h
    obtain ⟨htext, hbefore⟩ := cut?_eq_some_iff.mp hcut
    dsimp only at hone
    cases hafter : cut? after with
    | some parts => rw [hafter] at hone; cases hone
    | none =>
        rw [hafter] at hone
        obtain ⟨rfl, rfl⟩ := Prod.mk.inj (Option.some.inj hone)
        exact ⟨htext, hbefore, (cut?_eq_none_iff _).mp hafter⟩
  · rintro ⟨rfl, hmin, hmax⟩
    rw [cut?_append_separator max hmin]
    show (if (cut? max).isSome then none else some (min, max)) = some (min, max)
    rw [(cut?_eq_none_iff max).mpr hmax]
    rfl

/-- With a second separator in one of its parts a text has no bounds. -/
theorem bounds?_eq_none_of_hasSeparator {min max : List Char}
    (h : HasSeparator min ∨ HasSeparator max) :
    bounds? (min ++ ',' :: ' ' :: max) = none := by
  rw [bounds?]
  cases hmin : cut? min with
  | none =>
      have hno := (cut?_eq_none_iff min).mp hmin
      have hmax : (cut? max).isSome := by
        rw [Option.isSome_iff_ne_none, Ne, cut?_eq_none_iff, not_not]
        exact h.resolve_left hno
      rw [cut?_append_separator max hno]
      show (if (cut? max).isSome then none else some (min, max)) = none
      rw [if_pos hmax]
  | some parts =>
      obtain ⟨before, after⟩ := parts
      -- the first separator lies in `min`, and the one between the bounds comes after it
      have hlater : (cut? (after ++ ',' :: ' ' :: max)).isSome := by
        rw [Option.isSome_iff_ne_none, Ne, cut?_eq_none_iff, not_not]
        exact ⟨after, max, by simp⟩
      rw [cut?_append_of_eq_some _ hmin]
      show (if (cut? (after ++ ',' :: ' ' :: max)).isSome then none else
        some (before, after ++ ',' :: ' ' :: max)) = none
      rw [if_pos hlater]

/-! ## Brackets -/

theorem between?_append {opening closing : Char} (inner : List Char) :
    between? opening closing (opening :: (inner ++ [closing])) = some inner := by
  rw [between?, if_pos ⟨rfl, by rw [List.getLast?_append]; rfl⟩, List.dropLast_concat]

theorem between?_of_ne {opening closing first : Char} (rest : List Char) (h : first ≠ opening) :
    between? opening closing (first :: rest) = none := by
  rw [between?, if_neg fun hand => h hand.1]

/-- The text of a boundary is read by its own kind of brackets, whatever its bounds hold. -/
theorem ofText?_text (b : Boundary) :
    ofText? b.text = inside? b.inclusive (b.min.toList ++ ',' :: ' ' :: b.max.toList) := by
  obtain ⟨min, max, inclusive⟩ := b
  cases inclusive with
  | true =>
      have htext : (Boundary.text ⟨min, max, true⟩).toList =
          '[' :: ((min.toList ++ ',' :: ' ' :: max.toList) ++ [']']) := by
        simp [text]
      rw [ofText?, htext, between?_append]
  | false =>
      have htext : (Boundary.text ⟨min, max, false⟩).toList =
          '(' :: ((min.toList ++ ',' :: ' ' :: max.toList) ++ [')']) := by
        simp [text]
      rw [ofText?, htext, between?_of_ne _ (by decide), between?_append]
      rfl

/-! ## What is read back -/

/-- The boundary with the white space at the ends of its bounds taken off. -/
def trimmed (b : Boundary) : Boundary :=
  ⟨String.ofList (Text.trim b.min.toList), String.ofList (Text.trim b.max.toList), b.inclusive⟩

/-- A boundary that its text cannot tell: a bound holds the separator or is blank. -/
def IsMalformed (b : Boundary) : Prop :=
  HasSeparator b.min.toList ∨ HasSeparator b.max.toList ∨
    Text.trim b.min.toList = [] ∨ Text.trim b.max.toList = []

instance (b : Boundary) : Decidable b.IsMalformed :=
  inferInstanceAs (Decidable (_ ∨ _ ∨ _ ∨ _))

/-- A boundary that its text cannot tell is not read back. -/
theorem ofText?_text_of_isMalformed {b : Boundary} (h : b.IsMalformed) : ofText? b.text = none := by
  rw [ofText?_text, inside?]
  by_cases hsep : HasSeparator b.min.toList ∨ HasSeparator b.max.toList
  · rw [bounds?_eq_none_of_hasSeparator hsep]
    rfl
  · rw [not_or] at hsep
    have hblank := (h.resolve_left hsep.1).resolve_left hsep.2
    rw [bounds?_eq_some_iff.mpr ⟨rfl, hsep.1, hsep.2⟩]
    rcases hblank with hblank | hblank <;> simp [hblank]

/-- Any other boundary is read back with its bounds trimmed: no end of a bound moves the place where
the text is cut, or changes the brackets. -/
theorem ofText?_text_of_not_isMalformed {b : Boundary} (h : ¬ b.IsMalformed) :
    ofText? b.text = some b.trimmed := by
  rw [IsMalformed, not_or, not_or, not_or] at h
  obtain ⟨hmin, hmax, hlo, hhi⟩ := h
  rw [ofText?_text, inside?, bounds?_eq_some_iff.mpr ⟨rfl, hmin, hmax⟩]
  simp [hlo, hhi, trimmed]

/-- The condition, by which of its ends are open. -/
theorem condition_eq (b : Boundary) (left : String) :
    b.condition left =
      if b.min = "*" ∧ b.max = "*" then left ++ " IS NOT NULL"
      else if b.min = "*" then left ++ (if b.inclusive then " <= " else " < ") ++ b.max
      else if b.max = "*" then left ++ (if b.inclusive then " >= " else " > ") ++ b.min
      else if b.inclusive then left ++ " BETWEEN " ++ b.min ++ " AND " ++ b.max
      else left ++ " > " ++ b.min ++ " AND " ++ left ++ " < " ++ b.max := by
  rw [condition, openEnd]
  by_cases hmin : b.min = "*"
  · by_cases hmax : b.max = "*"
    · rw [if_pos hmin, if_pos hmax, if_pos ⟨hmin, hmax⟩]
    · rw [if_pos hmin, if_neg hmax, if_neg fun h : b.min = "*" ∧ b.max = "*" => hmax h.2, if_pos hmin]
  · rw [if_neg hmin, if_neg fun h : b.min = "*" ∧ b.max = "*" => hmin h.1, if_neg hmin]

end Boundary

namespace Table

/-- The outcome at a range node is that of reading its right text as a boundary. -/
theorem render_range_node {table : Table} {left : Operand} {l : String} (boundary : Boundary)
    (hrule : table.rule? .range = some .range) (hleft : table.renderOperand left = .ok l) :
    table.render (.node .range left (.range boundary)) = Rule.range.apply l boundary.text := by
  rw [render_node, hleft, renderOperand_range]
  exact outcome_close_some table hrule l boundary.text

/-- **A range is rendered as its fields say.** Where ranges have their usual rule, a node with a
boundary on the right fails exactly when a bound holds the separator or is blank, with the bracketed
text of the boundary; otherwise it gives the condition on the trimmed bounds, an open end being left
out. Reading the text back gives just those bounds and the same kind of brackets. -/
theorem render_range_boundary (table : Table) (left : Operand) (l : String) (b : Boundary)
    (hrule : table.rule? .range = some .range) (hleft : table.renderOperand left = .ok l) :
    (table.render (.node .range left (.range b)) = .error (.malformedRange
        (if b.inclusive then "[" ++ b.min ++ ", " ++ b.max ++ "]"
          else "(" ++ b.min ++ ", " ++ b.max ++ ")")) ↔ b.IsMalformed) ∧
    (¬ b.IsMalformed →
      let low := String.ofList (Text.trim b.min.toList)
      let high := String.ofList (Text.trim b.max.toList)
      Boundary.ofText? b.text = some ⟨low, high, b.inclusive⟩ ∧
      table.render (.node .range left (.range b)) = .ok
        (if low = "*" ∧ high = "*" then l ++ " IS NOT NULL"
        else if low = "*" then l ++ (if b.inclusive then " <= " else " < ") ++ high
        else if high = "*" then l ++ (if b.inclusive then " >= " else " > ") ++ low
        else if b.inclusive then l ++ " BETWEEN " ++ low ++ " AND " ++ high
        else l ++ " > " ++ low ++ " AND " ++ l ++ " < " ++ high)) := by
  rw [render_range_node b hrule hleft]
  by_cases h : b.IsMalformed
  · refine ⟨iff_of_true ?_ h, fun hnot => absurd h hnot⟩
    rw [Rule.apply, Boundary.ofText?_text_of_isMalformed h, Boundary.text]
  · have hread := Boundary.ofText?_text_of_not_isMalformed h
    refine ⟨iff_of_false ?_ h, fun _ => ⟨hread, ?_⟩⟩
    · rw [Rule.apply, hread]
      exact fun heq => nomatch heq
    · rw [Rule.apply, hread]
      exact congrArg Except.ok (Boundary.condition_eq b.trimmed l)

/-- A bracket inside a bound, a comma at its end and a space at its start stay part of it. -/
theorem render_range_boundary_commas :
    ¬ (Boundary.strict "],," " (").IsMalformed ∧
    Table.shared.render (.range (.column ⟨"n"⟩) (.strict "],," " (")) =
      .ok "n > ],, AND n < (" := by
  have hwell : ¬ (Boundary.strict "],," " (").IsMalformed := by decide
  have hread := (render_range_boundary .shared (.column ⟨"n"⟩) "n" (.strict "],," " (") rfl rfl).2
  exact ⟨hwell, (hread hwell).2⟩

end Table

end SqlFilter
