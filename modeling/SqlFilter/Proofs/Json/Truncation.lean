import SqlFilter.Proofs.Json.Ending
import SqlFilter.Proofs.Json.NumberPrefix
import SqlFilter.Proofs.Json.Transport

set_option autoImplicit false

/-! # Documents cut short

No part of a document is taken for the whole. Where the reader has come to the end of a tree, only
white space may follow (`Expr.ofJson_append`), so what is left of a document that is cut short is no
document. Of a written tree more can be said: wherever its text is cut, the reader wants more text.
`State.Pends` says this of a piece of text and the state in front of it, and `Spans` adds it to what
`Reads` says, so that pieces are put together as they are there.
-/

namespace SqlFilter

namespace Json

variable {ρ : Type}

/-! ## Waiting for more text -/

namespace State

/-- The document is not complete. -/
def IsPending (state : State ρ) : Prop :=
  ∃ place, state.finish = .error (.unfinished place)

/-- Wherever the text is cut, the document is not complete. -/
def Pends (state : State ρ) (text : List Char) : Prop :=
  ∀ first c rest, text = first ++ c :: rest → (state.run first).IsPending

variable {state : State ρ} {text more : List Char}

theorem pends_nil : state.Pends [] := by
  intro first c rest h
  simp at h

theorem pends_cons {c : Char} :
    state.Pends (c :: text) ↔ state.IsPending ∧ (state.step c).Pends text := by
  constructor
  · intro h
    refine ⟨h [] c text rfl, ?_⟩
    rintro first d rest rfl
    exact h (c :: first) d rest rfl
  · rintro ⟨hstate, htext⟩ first d rest h
    cases first with
    | nil => exact hstate
    | cons c' first =>
        obtain ⟨rfl, htail⟩ := List.cons.inj h
        exact htext first d rest htail

theorem Pends.append (h : state.Pends text) (hmore : (state.run text).Pends more) :
    state.Pends (text ++ more) := by
  induction text generalizing state with
  | nil => exact hmore
  | cons c text ih =>
      obtain ⟨hstate, htext⟩ := pends_cons.mp h
      exact pends_cons.mpr ⟨hstate, ih htext hmore⟩

theorem pends_char {c : Char} (h : state.IsPending) : state.Pends [c] :=
  pends_cons.mpr ⟨h, pends_nil⟩

end State

theorem isPending_expecting (spot : Spot ρ) : (State.at (.expecting spot)).IsPending :=
  ⟨.value, rfl⟩

theorem isPending_text (scan : TextScan) (use : TextUse ρ) :
    (State.at (.text scan use)).IsPending :=
  ⟨.string, rfl⟩

theorem isPending_closing (next : Stage ρ) : (State.at (.closing next)).IsPending :=
  ⟨.object, rfl⟩

/-- Between the items or members of brackets or braces a document is not complete, at least before
the first and after each of them. -/
theorem isPending_inside {phase : Phase} (hphase : phase ≠ .next) (bracket : Open ρ) :
    (State.at (.inside phase bracket)).IsPending := by
  rcases bracket.unfinished_cases phase with ⟨place, hplace⟩ | ⟨hnext, -⟩
  · exact ⟨place, congrArg Except.error hplace⟩
  · exact absurd hnext hphase

/-! ## Pieces of a document -/

/-- The text leads from one stage to another, unless it has a flaw. If it has none, then wherever it
is cut the document is not complete. -/
structure Spans (stage : Stage ρ) (text : List Char) (flaw? : Option Error) (next : Stage ρ) :
    Prop where
  reads : Reads stage text flaw? next
  pends : flaw? = none → (State.at stage).Pends text

variable {stage next last : Stage ρ} {text more : List Char} {flaw? flaw?' : Option Error}

theorem Spans.of_pends (hreads : Reads stage text flaw? next) (hpends : (State.at stage).Pends text) :
    Spans stage text flaw? next :=
  ⟨hreads, fun _ => hpends⟩

theorem spans_char {c : Char} (hstage : (State.at stage).IsPending)
    (hreads : Reads stage [c] flaw? next) : Spans stage [c] flaw? next :=
  .of_pends hreads (State.pends_char hstage)

theorem Spans.append (h : Spans stage text flaw? next) (h' : Spans next more flaw?' last) :
    Spans stage (text ++ more) (flaw?.or flaw?') last := by
  refine ⟨h.reads.append h'.reads, fun hflaw => ?_⟩
  obtain ⟨rfl, rfl⟩ := Option.or_eq_none_iff.mp hflaw
  have hrun : (State.at stage).run text = .at next := h.reads
  refine (h.pends rfl).append ?_
  rw [hrun]
  exact h'.pends rfl

theorem Spans.comma {bracket : Open ρ} (h : Spans (.inside .next bracket) text flaw? next) :
    Spans (.inside .after bracket) (',' :: text) flaw? next := by
  have hstep : Reads (.inside .after bracket) [','] none (.inside .next bracket) :=
    Reads.comma rfl
  exact (spans_char (isPending_inside Phase.noConfusion bracket) hstep).append h

theorem Spans.opening {c : Char} {depth : Nat} (hstage : (State.at stage).IsPending)
    (hc : (State.at stage).step c = .at (.nested depth next)) (h : Spans next text flaw? last) :
    Spans stage (c :: text) ((tooDeep? depth).or flaw?) last := by
  have hnil : Reads next [] none next := rfl
  have hopen : Reads stage [c] (tooDeep? depth) next := by
    have hreads := hnil.opening hc
    rwa [Option.or_none] at hreads
  exact (spans_char hstage hopen).append h

theorem Spans.close (h : Spans stage text flaw? next) (hnext : (State.at next).IsPending) {c : Char}
    (hc : (State.at next).step c = .at last) : Spans stage (text ++ [c]) flaw? last := by
  have hclose : Spans next [c] none last := spans_char hnext hc
  have happend := h.append hclose
  rw [Option.or_none] at happend
  exact happend

/-! ## Strings, words and members -/

theorem pends_text_of_feed? {use : TextUse ρ} (huse : use.isChecked = true) {text : List Char}
    {s next : TextScan} (h : s.feed? text = some next) : (State.at (.text s use)).Pends text := by
  induction text generalizing s with
  | nil => exact State.pends_nil
  | cons c text ih =>
      rw [TextScan.feed?] at h
      split at h
      · next after hstep =>
          have hstate : (State.at (.text s use)).step c = .at (.text after use) := by
            rw [State.step, Stage.step, huse, hstep]
          refine State.pends_cons.mpr ⟨isPending_text s use, ?_⟩
          rw [hstate]
          exact ih h
      · exact absurd h (by simp)
      · exact absurd h (by simp)

theorem pends_escaped {use : TextUse ρ} (huse : use.isChecked = true) (chars before : List Char) :
    (State.at (.text ⟨.plain, before⟩ use)).Pends (chars.flatMap escapeChar) := by
  induction chars generalizing before with
  | nil => exact State.pends_nil
  | cons c chars ih =>
      have hescape := TextScan.feed?_escapeChar before c
      rw [List.flatMap_cons]
      refine (pends_text_of_feed? huse hescape).append ?_
      rw [run_text_of_feed? huse hescape]
      exact ih (c :: before)

theorem spans_string (use : TextUse ρ) (huse : use.isChecked = true)
    (hstage : (State.at stage).IsPending)
    (hquote : (State.at stage).step '"' = .at (.text .start use)) (s : String) :
    Spans stage (writeString s) none (use.finish s) := by
  refine .of_pends (reads_string use huse hquote s) (State.pends_cons.mpr ⟨hstage, ?_⟩)
  rw [hquote]
  refine (pends_escaped huse s.toList []).append ?_
  rw [run_escaped huse s.toList []]
  exact State.pends_char (isPending_text _ use)

/-- A word may be cut after its first character and after each further one. -/
theorem pends_word (next : Char) (rest : List Char) (atom : Atom) (slot : Slot ρ) :
    (State.at (.word next rest atom slot)).Pends (next :: rest) := by
  induction rest generalizing next with
  | nil => exact State.pends_char ⟨.value, rfl⟩
  | cons c rest ih =>
      have hstep : (State.at (.word next (c :: rest) atom slot)).step next =
          .at (.word c rest atom slot) := by
        simp [State.step, Stage.step]
      refine State.pends_cons.mpr ⟨⟨.value, rfl⟩, ?_⟩
      rw [hstep]
      exact ih c

theorem spans_bool (slot : Slot ρ) (value : Bool) :
    Spans (.expecting (.slot slot)) (writeBool value) none
      (slot.accept (.scalar (.bool value))) := by
  refine .of_pends (run_writeBool slot value) ?_
  cases value with
  | false =>
      exact State.pends_cons.mpr ⟨isPending_expecting _, pends_word 'a' ['l', 's', 'e'] _ slot⟩
  | true => exact State.pends_cons.mpr ⟨isPending_expecting _, pends_word 'r' ['u', 'e'] _ slot⟩

theorem Spans.member (use : TextUse ρ) {spot : Spot ρ} {key : String} (huse : use.isChecked = true)
    (hstage : (State.at stage).IsPending)
    (hquote : (State.at stage).step '"' = .at (.text .start use))
    (hkey : use.finish key = .colon spot) (h : Spans (.expecting spot) text flaw? next) :
    Spans stage (member key text) flaw? next := by
  have hcolon : Spans (.colon spot) [':'] none (.expecting spot) :=
    spans_char ⟨.object, rfl⟩ rfl
  have hname := spans_string use huse hstage hquote key
  rw [hkey] at hname
  exact hname.append (hcolon.append h)

theorem spans_operator (hole : OperatorHole ρ) (op : Operator) :
    Spans (.expecting (.choice (.operator hole))) op.writeJson none (hole.fill op) :=
  .of_pends (reads_operator hole op)
    ((spans_string (.bare (.operator hole)) rfl (isPending_expecting _) rfl op.jsonName).pends rfl)

/-! ## Range boundaries -/

theorem spans_bound (which : Bound) (draft : BoundaryDraft) {hole : BoundaryHole ρ}
    (hnew : draft.has (.bound which) = false) (hstage : (State.at stage).IsPending)
    (hquote : (State.at stage).step '"' = .at (.text .start (.boundaryKey draft hole)))
    (s : String) :
    Spans stage (member (BoundaryField.bound which).name (writeString s)) none
      (.inside .after (.boundary (draft.setBound which s) hole)) :=
  Spans.member (.boundaryKey draft hole) rfl hstage hquote (finish_boundaryKey (.bound which) hnew)
    (spans_string (.value (.text (.bound which .object draft hole))) rfl
      (isPending_expecting _) rfl s)

theorem spans_boundary (hole : BoundaryHole ρ) (b : Boundary) :
    Spans (.expecting (.slot (.boundary hole))) b.writeJson (tooDeep? hole.depth)
      (hole.fill b) := by
  obtain ⟨min, max, inclusive⟩ := b
  have hmin : Spans (.inside .first (.boundary .empty hole)) (member "min" (writeString min)) none
      (.inside .after (.boundary ⟨some min, none, none⟩ hole)) :=
    spans_bound .min .empty rfl (isPending_inside Phase.noConfusion _) rfl min
  have hmax : Spans (.inside .next (.boundary ⟨some min, none, none⟩ hole))
      (member "max" (writeString max)) none
      (.inside .after (.boundary ⟨some min, some max, none⟩ hole)) :=
    spans_bound .max ⟨some min, none, none⟩ rfl ⟨.value, rfl⟩ rfl max
  have hinclusive : Spans (.inside .next (.boundary ⟨some min, some max, none⟩ hole))
      (member "inclusive" (writeBool inclusive)) none
      (.inside .after (.boundary ⟨some min, some max, some inclusive⟩ hole)) :=
    Spans.member (.boundaryKey _ hole) rfl ⟨.value, rfl⟩ rfl
      (finish_boundaryKey .inclusive rfl)
      (spans_bool (.flag ⟨.object, ⟨some min, some max, none⟩, hole⟩) inclusive)
  have hmembers := hmin.append (hmax.append hinclusive.comma).comma
  have hall : Spans (.expecting (.slot (.boundary hole))) (Boundary.writeJson ⟨min, max, inclusive⟩)
      ((tooDeep? hole.depth).or none) (hole.fill ⟨min, max, inclusive⟩) := by
    rw [Boundary.writeJson_eq]
    exact (hmembers.close (isPending_inside Phase.noConfusion _) rfl).opening
      (isPending_expecting _) rfl
  rw [Option.or_none] at hall
  exact hall

/-! ## Numbers -/

theorem NumberScan.exists_feed?_of_append {s last : NumberScan} {text more : List Char}
    (h : s.feed? (text ++ more) = some last) : ∃ next, s.feed? text = some next := by
  induction text generalizing s with
  | nil => exact ⟨s, rfl⟩
  | cons c text ih =>
      rw [List.cons_append, feed?] at h
      split at h
      · next after hstep =>
          rw [feed?_cons hstep]
          exact ih h
      · cases h
      · cases h

/-- A number that counts may be cut anywhere, if its whole part is short. -/
theorem isPending_number (hole : OperandHole ρ) {text more : List Char} {value : Scalar}
    (hshort : HasShortWhole text) (h : IsNumberText (text ++ more) value) :
    ((State.at (.expecting (.slot (.scalar (.value hole))))).run text).IsPending := by
  cases text with
  | nil => exact isPending_expecting _
  | cons c text =>
      have hall := h
      obtain ⟨last, hlast, -⟩ := hall
      rw [List.cons_append, NumberScan.ofText?] at hlast
      split at hlast
      · next hc =>
          obtain ⟨s, hs⟩ := NumberScan.exists_feed?_of_append hlast
          have hread : NumberScan.ofText? (c :: text) = some s := by
            rw [NumberScan.ofText?, if_pos hc, hs]
          rw [State.IsPending, State.run_cons, step_number _ hc, run_number_of_feed? _ hs, State.finish]
          by_cases hcomplete : s.isComplete = true
          · -- a number again, which is not too large; the brace behind it is missing
            have hsome := NumberScan.isSome_scalar?_of_append hshort hread hcomplete h
            obtain ⟨scalar, hscalar⟩ := Option.isSome_iff_exists.mp hsome
            rw [if_pos hcomplete, Slot.acceptNumber, hscalar]
            exact ⟨.object, rfl⟩
          · rw [if_neg hcomplete]
            exact ⟨.value, rfl⟩
      · cases hlast

theorem pends_number (hole : OperandHole ρ) {text : List Char} {value : Scalar}
    (hshort : HasShortWhole text) (h : IsNumberText text value) :
    (State.at (.expecting (.slot (.scalar (.value hole))))).Pends (text ++ ['\x7d']) := by
  intro first c rest heq
  -- the cut is in front of the brace
  obtain ⟨more, rfl⟩ : ∃ more, text = first ++ more := by
    rcases List.append_eq_append_iff.mp heq with ⟨longer, hfirst, hlonger⟩ | ⟨more, htext, -⟩
    · cases longer with
      | nil => exact ⟨[], by rw [List.append_nil, hfirst, List.append_nil]⟩
      | cons d longer => simp at hlonger
    · exact ⟨more, htext⟩
  exact isPending_number hole hshort.of_append h

/-- The text of a finite double may be cut anywhere, if the whole of it is in range. -/
theorem pends_finite (hole : OperandHole ρ) (negative : Bool) (x : Magnitude)
    (hflaw : (Scalar.float (.finite negative x)).flaw? = none) :
    (State.at (.expecting (.slot (.scalar (.value hole))))).Pends
      ((Scalar.float (.finite negative x)).writeJson ++ ['\x7d']) := by
  obtain ⟨form, htext, hread⟩ := Scalar.exists_form negative x
  have hshort : HasShortWhole form.text := by
    rw [← htext]
    exact hasShortWhole_json negative _
  cases hscalar : form.scan.scalar? with
  | none =>
      rw [Scalar.flaw?, hread, hscalar] at hflaw
      cases hflaw
  | some value =>
      rw [htext]
      exact pends_number hole hshort ⟨form.scan, form.ofText?_text, form.scan_isComplete, hscalar⟩

/-- A constant, with the brace behind it. -/
theorem spans_scalar (hole : OperandHole ρ) (s : Scalar) :
    Spans (.expecting (.slot (.scalar (.value hole)))) (s.writeJson ++ ['\x7d']) s.flaw?
      (hole.fill (.value s.reread)) := by
  refine ⟨reads_scalar hole s, fun hflaw => ?_⟩
  cases s with
  | bool value =>
      exact ((spans_bool (.scalar (.value hole)) value).close (isPending_closing _) rfl).pends rfl
  | int value => exact pends_number hole (hasShortWhole_int value) (isNumberText_int value)
  | uint value => exact pends_number hole (hasShortWhole_uint value) (isNumberText_uint value)
  | float value =>
      cases value with
      | nan => cases hflaw
      | infinite negative => cases hflaw
      | finite negative x => exact pends_finite hole negative x hflaw
  | string value =>
      have htext : Spans (.expecting (.slot (.scalar (.value hole)))) (writeString value) none
          (.closing (hole.fill (.value (.string value)))) :=
        spans_string (.value (.scalar (.value hole))) rfl (isPending_expecting _) rfl value
      exact (htext.close (isPending_closing _) rfl).pends rfl

/-! ## Operands and nodes -/

/-- The braces of an operand, with the name of its kind. -/
theorem spans_object (kind : OperandKind) (hole : OperandHole ρ)
    (h : Spans (.expecting (.slot (kind.slot hole))) (text ++ ['\x7d']) flaw? next) :
    Spans (.expecting (.choice (.operand hole))) (object [member kind.name text])
      ((tooDeep? hole.depth).or flaw?) next := by
  have hkey : (TextUse.variant (.operand hole)).finish kind.name =
      .colon (.slot (kind.slot hole)) := by
    rw [TextUse.finish, Choice.named, OperandKind.ofName?_name]
  have hmember : Spans (.variant (.operand hole)) (member kind.name (text ++ ['\x7d'])) flaw?
      next :=
    Spans.member (.variant (.operand hole)) rfl ⟨.object, rfl⟩ rfl hkey h
  have htext : member kind.name (text ++ ['\x7d']) = member kind.name text ++ ['\x7d'] := by
    rw [member, member, List.append_assoc]
    rfl
  rw [htext] at hmember
  exact hmember.opening (isPending_expecting _) rfl

/-- A side of a node, with the comma in front. -/
theorem spans_sideText (which : Side) {draft : NodeDraft} {hole : ExprHole ρ} {operand : Operand}
    (hnew : draft.has (.side which) = false)
    (h : Spans (.expecting (.choice (.operand (.side which .object draft hole)))) operand.writeJson
      (operand.flaw? (hole.depth + 1))
      ((OperandHole.side which .object draft hole).fill (operand.mapScalars Scalar.reread))) :
    Spans (.inside .after (.node draft hole)) (operand.sideText (NodeField.side which).name)
      (operand.flaw? (hole.depth + 1))
      (.inside .after (.node (draft.withSide which (operand.mapScalars Scalar.reread)) hole)) := by
  refine ⟨reads_sideText which hnew h.reads, fun hflaw => ?_⟩
  by_cases habsent : operand.isAbsent = true
  · rw [Operand.sideText_of_isAbsent _ habsent]
    exact State.pends_nil
  · have hmember : Spans (.inside .next (.node draft hole))
        (member (NodeField.side which).name operand.writeJson) (operand.flaw? (hole.depth + 1))
        (.inside .after (.node (draft.setSide which (operand.mapScalars Scalar.reread)) hole)) :=
      Spans.member (.nodeKey draft hole) rfl ⟨.value, rfl⟩ rfl
        (finish_nodeKey (.side which) hnew) h
    rw [Operand.sideText_of_not_isAbsent _ (Bool.eq_false_iff.mpr habsent)]
    exact hmember.comma.pends hflaw

/-- An item of a list, before which a comma may stand. -/
theorem spans_item (phase : Phase) (hphase : phase ≠ .after) {before : List Expr}
    {operand : OperandHole ρ} {item : Expr}
    (h : Spans (.expecting (.slot (.node (.item before operand)))) item.writeJson flaw? next) :
    Spans (.inside phase (.items before operand)) item.writeJson flaw? next := by
  refine ⟨reads_item phase hphase h.reads, fun hflaw => ?_⟩
  have hpends := h.pends hflaw
  -- an item begins with a brace, which is no closing bracket
  obtain ⟨op, left, right⟩ := item
  rw [Expr.writeJson_node] at hpends ⊢
  obtain ⟨-, hrest⟩ := State.pends_cons.mp hpends
  cases phase with
  | first => exact State.pends_cons.mpr ⟨⟨.list, rfl⟩, hrest⟩
  | after => exact absurd rfl hphase
  | next => exact State.pends_cons.mpr ⟨⟨.value, rfl⟩, hrest⟩

end Json

open Json

variable {ρ : Type}

/-! ## Trees -/

-- By induction on the tree, for every hole, along the pieces that the reader meets.

mutual

/-- Wherever the text of a tree is cut, the document is not complete. -/
theorem Expr.spans_writeJson (e : Expr) (hole : ExprHole ρ) :
    Spans (.expecting (.slot (.node hole))) e.writeJson (e.flaw? hole.depth)
      (hole.fill (e.mapScalars Scalar.reread)) := by
  refine ⟨e.reads_writeJson hole, fun hflaw => ?_⟩
  cases e with
  | node op left right =>
      have hop : Spans (.inside .first (.node .empty hole)) (member "op" op.writeJson) none
          (.inside .after (.node (NodeDraft.empty.setOp op) hole)) :=
        Spans.member (.nodeKey .empty hole) rfl (isPending_inside Phase.noConfusion _) rfl
          (finish_nodeKey .op rfl)
          (spans_operator (.op .object .empty hole) op)
      have hleft := spans_sideText .left rfl
        (left.spans_writeJson (.side .left .object (NodeDraft.empty.setOp op) hole))
      have hright := spans_sideText .right (has_withSide_left op (left.mapScalars Scalar.reread))
        (right.spans_writeJson
          (.side .right .object ((NodeDraft.empty.setOp op).withSide .left (left.mapScalars Scalar.reread)) hole))
      have hfields := (hop.append hleft).append hright
      rw [Expr.flaw?] at hflaw
      rw [Expr.writeJson_node]
      exact Spans.pends ((hfields.close (isPending_inside Phase.noConfusion _) rfl).opening
        (isPending_expecting _) rfl) hflaw

/-- Wherever the text of an operand is cut, the document is not complete. -/
theorem Operand.spans_writeJson (operand : Operand) (hole : OperandHole ρ) :
    Spans (.expecting (.choice (.operand hole))) operand.writeJson (operand.flaw? hole.depth)
      (hole.fill (operand.mapScalars Scalar.reread)) := by
  cases operand with
  | absent => exact spans_string (.bare (.operand hole)) rfl (isPending_expecting _) rfl "absent"
  | expr tree =>
      exact spans_object .expr hole
        ((tree.spans_writeJson (.inner hole)).close (isPending_closing _) rfl)
  | list items =>
      exact spans_object .list hole
        ((Expr.spans_list items hole).close (isPending_closing _) rfl)
  | range boundary =>
      exact spans_object .range hole
        ((spans_boundary (.operand hole) boundary).close (isPending_closing _) rfl)
  | column column =>
      have hname : Spans (.expecting (.slot (.text (.column hole)))) column.writeJson none
          (.closing (hole.fill (.column column))) :=
        spans_string (.value (.text (.column hole))) rfl (isPending_expecting _) rfl column.name
      have hall := spans_object .column hole (hname.close (isPending_closing _) rfl)
      rw [Option.or_none] at hall
      exact hall
  | value scalar => exact spans_object .value hole (spans_scalar hole scalar)

/-- Wherever the text of a list is cut, the document is not complete. -/
theorem Expr.spans_list (items : List Expr) (hole : OperandHole ρ) :
    Spans (.expecting (.slot (.items hole))) (Json.list (Expr.writeAllJson items))
      ((tooDeep? (hole.depth + 1)).or (Expr.flawAll? (hole.depth + 2) items))
      (.closing (hole.fill (.list (Expr.mapScalarsAll Scalar.reread items)))) := by
  refine ⟨Expr.reads_list items hole, fun hflaw => ?_⟩
  cases items with
  | nil =>
      have hclose : Spans (.inside .first (.items [] hole)) [']'] none
          (.closing (hole.fill (.list []))) :=
        spans_char (isPending_inside Phase.noConfusion _) rfl
      exact Spans.pends (hclose.opening (isPending_expecting _) rfl) hflaw
  | cons item rest =>
      have hitem := spans_item .first Phase.noConfusion (item.spans_writeJson (.item [] hole))
      have hrest := Expr.spans_followers rest [item.mapScalars Scalar.reread] hole
      rw [Expr.writeAllJson, list_cons]
      exact Spans.pends (((hitem.append hrest).close (isPending_inside Phase.noConfusion _)
        rfl).opening (isPending_expecting _) rfl) hflaw

/-- Wherever the text of further items is cut, the document is not complete. -/
theorem Expr.spans_followers (items before : List Expr) (hole : OperandHole ρ) :
    Spans (.inside .after (.items before hole)) (followers (Expr.writeAllJson items))
      (Expr.flawAll? (hole.depth + 2) items)
      (.inside .after (.items ((Expr.mapScalarsAll Scalar.reread items).reverse ++ before) hole)) := by
  refine ⟨Expr.reads_followers items before hole, fun hflaw => ?_⟩
  cases items with
  | nil => exact State.pends_nil
  | cons item rest =>
      have hitem := spans_item .next Phase.noConfusion (item.spans_writeJson (.item before hole))
      have hrest := Expr.spans_followers rest (item.mapScalars Scalar.reread :: before) hole
      exact (hitem.append hrest).comma.pends hflaw

end

/-! ## Documents -/

/-- A document that ends before its last bracket or brace is refused. -/
theorem Expr.ofJson_cut {body space left cut : String} {e : Expr}
    (h : Expr.ofJson (body ++ space) = .ok e)
    (hsolid : ∀ c ∈ body.toList.getLast?, isSpace c = false) (hbody : body = left ++ cut)
    (hcut : cut ≠ "") (e' : Expr) : Expr.ofJson left ≠ .ok e' := by
  intro hleft
  rw [hbody, String.append_assoc] at h
  have hblank := ((Expr.ofJson_append hleft e).mp h).1
  have hne : cut.toList ≠ [] := by
    intro hnil
    exact hcut (String.toList_eq_nil_iff.mp hnil)
  -- the last character of the body was cut off, and it is no white space
  have hlast : body.toList.getLast? = some (cut.toList.getLast hne) := by
    rw [hbody, String.toList_append, List.getLast?_append_of_ne_nil _ hne,
      List.getLast?_eq_some_getLast hne]
  have hspace : isSpace (cut.toList.getLast hne) = true := by
    apply hblank
    rw [String.toList_append]
    exact List.mem_append_left _ (List.getLast_mem hne)
  rw [hsolid _ hlast] at hspace
  exact Bool.false_ne_true hspace

/-- A written tree that is cut short is unfinished. -/
theorem Expr.category_of_toJson_cut {tree e : Expr} (h : Expr.ofJson tree.toJson = .ok e)
    {left cut : String} (hsplit : tree.toJson = left ++ cut) (hcut : cut ≠ "") :
    ∃ error, Expr.ofJson left = .error error ∧ error.category = .eof := by
  have hflaw := (Expr.ofJson_toJson_eq_ok_iff.mp h).1
  have hpends := (tree.spans_writeJson (.document id)).pends hflaw
  have htext : tree.writeJson = left.toList ++ cut.toList := by
    have hlist := congrArg String.toList hsplit
    rwa [toJson, String.toList_ofList, String.toList_append] at hlist
  cases hrest : cut.toList with
  | nil => exact absurd (String.toList_eq_nil_iff.mp hrest) hcut
  | cons c rest =>
      rw [hrest] at htext
      obtain ⟨place, hfinish⟩ := hpends left.toList c rest htext
      exact ⟨.unfinished place, hfinish, rfl⟩

/-- **Documents cut short.** Of a document that is accepted no beginning is accepted that leaves out
more than white space at its end, and of the documents that go on behind it exactly those with
nothing but white space there, as the same tree. And if a written tree is accepted, every beginning
of its text is refused because it ends too early. -/
theorem Expr.ofJson_truncation :
    (∀ (document : String) (e : Expr), Expr.ofJson document = .ok e →
      (∀ body space : String, document = body ++ space → IsBlank space.toList →
        (∀ c ∈ body.toList.getLast?, isSpace c = false) →
        ∀ left cut : String, body = left ++ cut → cut ≠ "" →
          ∀ e' : Expr, Expr.ofJson left ≠ .ok e') ∧
      (∀ (more : String) (e' : Expr),
        Expr.ofJson (document ++ more) = .ok e' ↔ IsBlank more.toList ∧ e' = e)) ∧
    (∀ tree e : Expr, Expr.ofJson tree.toJson = .ok e →
      ∀ left cut : String, tree.toJson = left ++ cut → cut ≠ "" →
        ∃ error, Expr.ofJson left = .error error ∧ error.category = .eof) := by
  refine ⟨fun document e h => ⟨?_, fun more e' => Expr.ofJson_append h e'⟩, ?_⟩
  · rintro body space rfl - hsolid left cut hbody hcut
    exact Expr.ofJson_cut h hsolid hbody hcut
  · intro tree e h left cut hsplit hcut
    exact Expr.category_of_toJson_cut h hsplit hcut

/-- A line feed behind a tree, and a cut inside a number that leaves a number. -/
theorem Expr.ofJson_truncation_number :
    Expr.ofJson ((Expr.unary .not (.value (.int (-12)))).toJson ++ "\n") =
      .ok (.unary .not (.value (.int (-12)))) ∧
    ∃ error, Expr.ofJson "\x7b\"op\":\"not\",\"left\":\x7b\"value\":-1" = .error error ∧
      error.category = .eof := by
  have hread : Expr.ofJson (Expr.unary .not (.value (.int (-12)))).toJson =
      .ok (.unary .not (.value (.int (-12)))) := rfl
  refine ⟨((Expr.ofJson_truncation.1 _ _ hread).2 "\n" _).mpr ⟨by decide, rfl⟩, ?_⟩
  exact Expr.ofJson_truncation.2 _ _ hread _ "2\x7d\x7d" (by decide) (by decide)

end SqlFilter
