import SqlFilter.Proofs.Json.Flaw
import SqlFilter.Proofs.Json.Reading

set_option autoImplicit false

/-! # Trees through JSON

A tree is written and read again. What comes back is the tree with each of its constants as it is
read from its own text (`Scalar.reread`), unless the text has a flaw, and then the answer is the first
flaw (`Expr.ofJson_toJson`). If its doubles read back, that is the tree with its unsigned integers
made signed where they fit (`Expr.norm`). The argument follows the reader: `Reads` says what a piece
of text does to a stage, pieces are put together with `Reads.append`, and the stage after a value is
the hole around it filled with that value.
-/

namespace SqlFilter

/-! ## What comes back -/

/-- An unsigned integer is signed where it fits; every other constant stays as it is. -/
def Scalar.norm : Scalar → Scalar
  | .uint value => if value.toNat < 2 ^ 63 then .int (Int64.ofInt value.toNat) else .uint value
  | .bool value => .bool value
  | .int value => .int value
  | .float value => .float value
  | .string value => .string value

/-- A constant as it is read from its text: an unsigned integer is signed where it fits, and a double
may be another one. -/
def Scalar.reread : Scalar → Scalar
  | .float x => x.reread?.getD (.float x)
  | .bool value => .bool value
  | .int value => .int value
  | .uint value => (Scalar.uint value).norm
  | .string value => .string value

theorem Scalar.reread_eq_norm {s : Scalar} (h : ∀ x, s = .float x → x.ReadsBack) :
    s.reread = s.norm := by
  cases s with
  | float x =>
      have hback := Binary64.readsBack_iff_reread?.mp (h x rfl)
      cases x with
      | finite negative x =>
          rw [reread, hback rfl]
          rfl
      | nan => rfl
      | infinite negative => rfl
  | bool value => rfl
  | int value => rfl
  | uint value => rfl
  | string value => rfl

/-- A tree with its unsigned integers signed where they fit. -/
def Expr.norm (e : Expr) : Expr :=
  e.mapScalars Scalar.norm

/-- If its doubles read back, only the unsigned integers of a tree may come back as others. -/
theorem Expr.mapScalars_reread {e : Expr} (h : AllReadBack e.floats) :
    e.mapScalars Scalar.reread = e.norm := by
  refine Expr.mapScalars_congr fun s hs => Scalar.reread_eq_norm ?_
  rintro x rfl
  exact h x (Expr.mem_floats.mpr hs)

namespace Json

variable {ρ : Type}

/-! ## Pieces of a document -/

/-- The stage, unless there is an error. -/
def Stage.unless (stage : Stage ρ) : Option Error → Stage ρ
  | none => stage
  | some error => .failed error

/-- The text leads from one stage to another, unless it has a flaw. -/
def Reads (stage : Stage ρ) (text : List Char) (flaw? : Option Error) (next : Stage ρ) : Prop :=
  (State.at stage).run text = .at (next.unless flaw?)

variable {stage next last : Stage ρ} {text more : List Char} {flaw? flaw?' : Option Error}

/-- The text of a value as a whole document. -/
theorem State.read_of_reads {spot : Spot ρ} (h : Reads (.expecting spot) text none next) :
    (State.before spot).read (String.ofList text) = next.finish := by
  rw [read, String.toList_ofList]
  exact congrArg finish h

/-- After a flaw nothing counts any more, so the first flaw is the answer. -/
theorem Reads.append (h : Reads stage text flaw? next) (h' : Reads next more flaw?' last) :
    Reads stage (text ++ more) (flaw?.or flaw?') last := by
  rw [Reads, State.run_append, h]
  cases flaw? with
  | none => exact h'
  | some error => exact State.run_failed error more

/-- A comma in front of a further item or member. -/
theorem Reads.comma {bracket : Open ρ} (h : Reads (.inside .next bracket) text flaw? next) :
    Reads (.inside .after bracket) (',' :: text) flaw? next := by
  have hstep : (State.at (.inside .after bracket)).step ',' = .at (.inside .next bracket) := by
    cases bracket with
    | node draft hole => rfl
    | nodeList next draft hole => rfl
    | boundary draft hole => rfl
    | boundaryList next draft hole => rfl
    | items before operand => rfl
    | passing form outer passage =>
        cases form
        · rfl
        · rfl
  rw [Reads, State.run_cons, hstep]
  exact h

/-- A bracket or brace in front, which may be one too many. -/
theorem Reads.opening {c : Char} {depth : Nat}
    (hc : (State.at stage).step c = .at (.nested depth next)) (h : Reads next text flaw? last) :
    Reads stage (c :: text) ((tooDeep? depth).or flaw?) last := by
  have hopen : Reads stage [c] (tooDeep? depth) next := by
    rw [Reads, State.run_cons, hc, State.run_nil, Stage.nested, tooDeep?]
    split
    · rfl
    · rfl
  exact hopen.append h

/-- One more character without a flaw. -/
theorem Reads.close (h : Reads stage text flaw? next) {c : Char}
    (hc : (State.at next).step c = .at last) : Reads stage (text ++ [c]) flaw? last := by
  have hclose : Reads next [c] none last := hc
  have happend := h.append hclose
  rw [Option.or_none] at happend
  exact happend

/-- A member is read up to its value. -/
theorem Reads.member (use : TextUse ρ) {spot : Spot ρ} {key : String} (huse : use.isChecked = true)
    (hquote : (State.at stage).step '"' = .at (.text .start use))
    (hkey : use.finish key = .colon spot) (h : Reads (.expecting spot) text flaw? next) :
    Reads stage (member key text) flaw? next := by
  rw [Reads, run_member huse hquote hkey]
  exact h

/-! ## Parts of an operand -/

theorem reads_string (use : TextUse ρ) (huse : use.isChecked = true)
    (hquote : (State.at stage).step '"' = .at (.text .start use)) (s : String) :
    Reads stage (writeString s) none (use.finish s) :=
  run_writeString huse hquote s

theorem reads_operator (hole : OperatorHole ρ) (op : Operator) :
    Reads (.expecting (.choice (.operator hole))) op.writeJson none (hole.fill op) := by
  have hname : (TextUse.bare (.operator hole)).finish op.jsonName = hole.fill op := by
    rw [TextUse.finish, Choice.bare, Operator.ofJsonName?_jsonName]
  rw [← hname]
  exact reads_string (.bare (.operator hole)) rfl rfl op.jsonName

/-! ## Range boundaries -/

theorem finish_boundaryKey (field : BoundaryField) {draft : BoundaryDraft} {hole : BoundaryHole ρ}
    (hnew : draft.has field = false) :
    (TextUse.boundaryKey draft hole).finish field.name =
      .colon (field.spot .object draft hole) := by
  rw [TextUse.finish, BoundaryDraft.key, BoundaryField.ofName?_name]
  show (if draft.has field then _ else _) = _
  rw [hnew, if_neg Bool.false_ne_true]

/-- A bound of a range boundary. -/
theorem reads_bound (which : Bound) (draft : BoundaryDraft) {hole : BoundaryHole ρ}
    (hnew : draft.has (.bound which) = false)
    (hquote : (State.at stage).step '"' = .at (.text .start (.boundaryKey draft hole)))
    (s : String) :
    Reads stage (member (BoundaryField.bound which).name (writeString s)) none
      (.inside .after (.boundary (draft.setBound which s) hole)) :=
  Reads.member (.boundaryKey draft hole) rfl hquote (finish_boundaryKey (.bound which) hnew)
    (reads_string (.value (.text (.bound which .object draft hole))) rfl rfl s)

/-- A range boundary. -/
theorem reads_boundary (hole : BoundaryHole ρ) (b : Boundary) :
    Reads (.expecting (.slot (.boundary hole))) b.writeJson (tooDeep? hole.depth) (hole.fill b) := by
  obtain ⟨min, max, inclusive⟩ := b
  have hmin : Reads (.inside .first (.boundary .empty hole)) (member "min" (writeString min)) none
      (.inside .after (.boundary ⟨some min, none, none⟩ hole)) :=
    reads_bound .min .empty rfl rfl min
  have hmax : Reads (.inside .next (.boundary ⟨some min, none, none⟩ hole))
      (member "max" (writeString max)) none
      (.inside .after (.boundary ⟨some min, some max, none⟩ hole)) :=
    reads_bound .max ⟨some min, none, none⟩ rfl rfl max
  have hinclusive : Reads (.inside .next (.boundary ⟨some min, some max, none⟩ hole))
      (member "inclusive" (writeBool inclusive)) none
      (.inside .after (.boundary ⟨some min, some max, some inclusive⟩ hole)) :=
    Reads.member (.boundaryKey _ hole) rfl rfl (finish_boundaryKey .inclusive rfl)
      (run_writeBool (.flag ⟨.object, ⟨some min, some max, none⟩, hole⟩) inclusive)
  have hmembers := hmin.append (hmax.append hinclusive.comma).comma
  have hall : Reads (.expecting (.slot (.boundary hole))) (Boundary.writeJson ⟨min, max, inclusive⟩)
      ((tooDeep? hole.depth).or none) (hole.fill ⟨min, max, inclusive⟩) := by
    rw [Boundary.writeJson_eq]
    exact (hmembers.close rfl).opening rfl
  rw [Option.or_none] at hall
  exact hall

/-! ## Constants and names -/

/-- A finite double, with the brace behind it. -/
theorem reads_finite (hole : OperandHole ρ) (negative : Bool) (x : Magnitude) :
    Reads (.expecting (.slot (.scalar (.value hole))))
      ((Scalar.float (.finite negative x)).writeJson ++ ['\x7d'])
      (Scalar.float (.finite negative x)).flaw?
      (hole.fill (.value (Scalar.float (.finite negative x)).reread)) := by
  obtain ⟨form, htext, hread⟩ := Scalar.exists_form negative x
  have hflaw : (Scalar.float (.finite negative x)).flaw? =
      if form.scan.scalar?.isSome then none else some (.malformed .numberRange) := by
    rw [Scalar.flaw?, hread]
    rfl
  have hrun := run_complete (.scalar (.value hole)) form.ofText?_text form.scan_isComplete
    (c := '\x7d') (.inr (.inr (.inr rfl)))
  rw [Reads, htext, hrun, hflaw, Scalar.reread, hread, Slot.acceptNumber]
  cases form.scan.scalar? with
  | none => rfl
  | some value => rfl

/-- A constant, with the brace behind it. -/
theorem reads_scalar (hole : OperandHole ρ) (s : Scalar) :
    Reads (.expecting (.slot (.scalar (.value hole)))) (s.writeJson ++ ['\x7d']) s.flaw?
      (hole.fill (.value s.reread)) := by
  have hnumber : ∀ {text : List Char} {value : Scalar}, IsNumberText text value →
      Reads (.expecting (.slot (.scalar (.value hole)))) (text ++ ['\x7d']) none
        (hole.fill (.value value)) := by
    intro text value h
    rw [Reads, run_numberText _ h (.inr (.inr (.inr rfl)))]
    rfl
  cases s with
  | bool value =>
      have hword : Reads (.expecting (.slot (.scalar (.value hole)))) (writeBool value) none
          (.closing (hole.fill (.value (.bool value)))) :=
        run_writeBool (.scalar (.value hole)) value
      exact hword.close rfl
  | int value => exact hnumber (isNumberText_int value)
  | uint value => exact hnumber (isNumberText_uint value)
  | float value =>
      cases value with
      | nan => rfl
      | infinite negative => rfl
      | finite negative x => exact reads_finite hole negative x
  | string value =>
      have htext : Reads (.expecting (.slot (.scalar (.value hole)))) (writeString value) none
          (.closing (hole.fill (.value (.string value)))) :=
        reads_string (.value (.scalar (.value hole))) rfl rfl value
      exact htext.close rfl

/-- The braces of an operand, with the name of its kind. -/
theorem reads_object (kind : OperandKind) (hole : OperandHole ρ)
    (h : Reads (.expecting (.slot (kind.slot hole))) (text ++ ['\x7d']) flaw? next) :
    Reads (.expecting (.choice (.operand hole))) (object [member kind.name text])
      ((tooDeep? hole.depth).or flaw?) next := by
  have hkey : (TextUse.variant (.operand hole)).finish kind.name =
      .colon (.slot (kind.slot hole)) := by
    rw [TextUse.finish, Choice.named, OperandKind.ofName?_name]
  have hmember : Reads (.variant (.operand hole)) (member kind.name (text ++ ['\x7d'])) flaw? next :=
    Reads.member (.variant (.operand hole)) rfl rfl hkey h
  have htext : member kind.name (text ++ ['\x7d']) = member kind.name text ++ ['\x7d'] := by
    rw [member, member, List.append_assoc]
    rfl
  rw [htext] at hmember
  exact hmember.opening rfl

/-! ## Nodes -/

theorem finish_nodeKey (field : NodeField) {draft : NodeDraft} {hole : ExprHole ρ}
    (hnew : draft.has field = false) :
    (TextUse.nodeKey draft hole).finish field.name = .colon (field.spot .object draft hole) := by
  rw [TextUse.finish, NodeDraft.key, NodeField.ofName?_name]
  show (if draft.has field then _ else _) = _
  rw [hnew, if_neg Bool.false_ne_true]

/-- A draft after the text of a side, which is empty for an absent one. -/
def NodeDraft.withSide (draft : NodeDraft) (which : Side) (operand : Operand) : NodeDraft :=
  if operand.isAbsent then draft else draft.setSide which operand

theorem has_withSide_left (op : Operator) (left : Operand) :
    ((NodeDraft.empty.setOp op).withSide .left left).has (.side .right) = false := by
  cases left <;> rfl

theorem expr?_withSide (op : Operator) (left right : Operand) :
    (((NodeDraft.empty.setOp op).withSide .left left).withSide .right right).expr? =
      some (.node op left right) := by
  cases left <;> cases right <;> rfl

/-- A side of a node, with the comma in front. -/
theorem reads_sideText (which : Side) {draft : NodeDraft} {hole : ExprHole ρ} {operand : Operand}
    (hnew : draft.has (.side which) = false)
    (h : Reads (.expecting (.choice (.operand (.side which .object draft hole)))) operand.writeJson
      (operand.flaw? (hole.depth + 1))
      ((OperandHole.side which .object draft hole).fill (operand.mapScalars Scalar.reread))) :
    Reads (.inside .after (.node draft hole)) (operand.sideText (NodeField.side which).name)
      (operand.flaw? (hole.depth + 1))
      (.inside .after (.node (draft.withSide which (operand.mapScalars Scalar.reread)) hole)) := by
  cases habsent : operand.isAbsent with
  | true =>
      -- no text, no flaw, and the draft stays as it is
      have hempty : operand = .absent := by
        cases operand <;> first | rfl | exact absurd habsent Bool.false_ne_true
      rw [hempty]
      rfl
  | false =>
      rw [Operand.sideText_of_not_isAbsent _ habsent, NodeDraft.withSide, Operand.isAbsent_mapScalars,
        habsent, if_neg Bool.false_ne_true]
      have hmember : Reads (.inside .next (.node draft hole))
          (member (NodeField.side which).name operand.writeJson) (operand.flaw? (hole.depth + 1))
          (.inside .after (.node (draft.setSide which (operand.mapScalars Scalar.reread)) hole)) :=
        Reads.member (.nodeKey draft hole) rfl rfl (finish_nodeKey (.side which) hnew) h
      exact hmember.comma

/-- An item of a list, before which a comma may stand. -/
theorem reads_item (phase : Phase) (hphase : phase ≠ .after) {before : List Expr}
    {operand : OperandHole ρ} {item : Expr}
    (h : Reads (.expecting (.slot (.node (.item before operand)))) item.writeJson flaw? next) :
    Reads (.inside phase (.items before operand)) item.writeJson flaw? next := by
  -- an item begins with a brace, which is no closing bracket
  obtain ⟨op, left, right⟩ := item
  rw [Expr.writeJson_node] at h ⊢
  cases phase with
  | first => exact h
  | after => exact absurd rfl hphase
  | next => exact h

end Json

open Json

variable {ρ : Type}

/-! ## Trees -/

-- By induction on the tree, for every hole: what has been read around it is in the hole.

mutual

/-- The text of a tree leads to the hole filled with the tree. -/
theorem Expr.reads_writeJson (e : Expr) (hole : ExprHole ρ) :
    Reads (.expecting (.slot (.node hole))) e.writeJson (e.flaw? hole.depth)
      (hole.fill (e.mapScalars Scalar.reread)) := by
  cases e with
  | node op left right =>
      have hop : Reads (.inside .first (.node .empty hole)) (member "op" op.writeJson) none
          (.inside .after (.node (NodeDraft.empty.setOp op) hole)) :=
        Reads.member (.nodeKey .empty hole) rfl rfl (finish_nodeKey .op rfl)
          (reads_operator (.op .object .empty hole) op)
      have hleft := reads_sideText .left rfl
        (left.reads_writeJson (.side .left .object (NodeDraft.empty.setOp op) hole))
      have hright := reads_sideText .right (has_withSide_left op (left.mapScalars Scalar.reread))
        (right.reads_writeJson
          (.side .right .object ((NodeDraft.empty.setOp op).withSide .left (left.mapScalars Scalar.reread)) hole))
      have hclose : (State.at (.inside .after (.node (((NodeDraft.empty.setOp op).withSide .left
          (left.mapScalars Scalar.reread)).withSide .right (right.mapScalars Scalar.reread)) hole))).step '\x7d' =
          .at (hole.fill (.node op (left.mapScalars Scalar.reread) (right.mapScalars Scalar.reread))) := by
        show State.at (Open.close (.node _ hole)) = _
        rw [Open.close, expr?_withSide]
      rw [Expr.writeJson_node, Expr.flaw?, Expr.mapScalars]
      exact (((hop.append hleft).append hright).close hclose).opening rfl

/-- The text of an operand leads to the hole filled with the operand. -/
theorem Operand.reads_writeJson (operand : Operand) (hole : OperandHole ρ) :
    Reads (.expecting (.choice (.operand hole))) operand.writeJson (operand.flaw? hole.depth)
      (hole.fill (operand.mapScalars Scalar.reread)) := by
  cases operand with
  | absent => exact reads_string (.bare (.operand hole)) rfl rfl "absent"
  | expr tree =>
      exact reads_object .expr hole ((tree.reads_writeJson (.inner hole)).close rfl)
  | list items =>
      have hlist := Expr.reads_list items hole
      exact reads_object .list hole (hlist.close rfl)
  | range boundary =>
      exact reads_object .range hole ((reads_boundary (.operand hole) boundary).close rfl)
  | column column =>
      have hname : Reads (.expecting (.slot (.text (.column hole)))) column.writeJson none
          (.closing (hole.fill (.column column))) :=
        reads_string (.value (.text (.column hole))) rfl rfl column.name
      have hall := reads_object .column hole (hname.close rfl)
      rw [Option.or_none] at hall
      exact hall
  | value scalar => exact reads_object .value hole (reads_scalar hole scalar)

/-- The text of a list leads to the brace behind it. -/
theorem Expr.reads_list (items : List Expr) (hole : OperandHole ρ) :
    Reads (.expecting (.slot (.items hole))) (Json.list (Expr.writeAllJson items))
      ((tooDeep? (hole.depth + 1)).or (Expr.flawAll? (hole.depth + 2) items))
      (.closing (hole.fill (.list (Expr.mapScalarsAll Scalar.reread items)))) := by
  cases items with
  | nil =>
      have hclose : Reads (.inside .first (.items [] hole)) [']'] none
          (.closing (hole.fill (.list []))) := rfl
      exact hclose.opening rfl
  | cons item rest =>
      have hitem := reads_item .first Phase.noConfusion
        (item.reads_writeJson (.item [] hole))
      have hrest := Expr.reads_followers rest [item.mapScalars Scalar.reread] hole
      have hclose : (State.at (.inside .after (.items ((Expr.mapScalarsAll Scalar.reread rest).reverse ++ [item.mapScalars Scalar.reread])
          hole))).step ']' = .at (.closing (hole.fill (.list (Expr.mapScalarsAll Scalar.reread (item :: rest))))) := by
        show State.at (Open.close (.items _ hole)) = _
        rw [Open.close, List.reverse_append, List.reverse_reverse]
        rfl
      rw [Expr.writeAllJson, list_cons]
      exact ((hitem.append hrest).close hclose).opening rfl

/-- Further items come in front of those that have been read, the last one first. -/
theorem Expr.reads_followers (items before : List Expr) (hole : OperandHole ρ) :
    Reads (.inside .after (.items before hole)) (followers (Expr.writeAllJson items))
      (Expr.flawAll? (hole.depth + 2) items)
      (.inside .after (.items ((Expr.mapScalarsAll Scalar.reread items).reverse ++ before) hole)) := by
  cases items with
  | nil => rfl
  | cons item rest =>
      have hitem := reads_item .next Phase.noConfusion
        (item.reads_writeJson (.item before hole))
      -- the item that was read now stands in front of the items before it
      have hrest := Expr.reads_followers rest (item.mapScalars Scalar.reread :: before) hole
      rw [Expr.writeAllJson, followers_cons, Expr.mapScalarsAll, List.reverse_cons, List.append_assoc]
      exact (hitem.append hrest).comma

end

/-- A written tree is read with its constants as they are read from their own texts, or its first
flaw is the answer. -/
theorem Expr.ofJson_toJson (e : Expr) :
    Expr.ofJson e.toJson =
      match e.flaw? 0 with
      | none => .ok (e.mapScalars Scalar.reread)
      | some error => .error error := by
  have hread := e.reads_writeJson (.document id)
  rw [Reads] at hread
  rw [ofJson, State.read, toJson, String.toList_ofList]
  show ((State.at (.expecting (.slot (.node (.document id))))).run e.writeJson).finish = _
  rw [hread]
  show (State.at (Stage.unless _ (e.flaw? 0))).finish = _
  cases e.flaw? 0 with
  | none => rfl
  | some error => rfl

theorem Expr.ofJson_toJson_eq_ok_iff {e e' : Expr} :
    Expr.ofJson e.toJson = .ok e' ↔ e.flaw? 0 = none ∧ e' = e.mapScalars Scalar.reread := by
  rw [e.ofJson_toJson]
  cases e.flaw? 0 with
  | none => simp [eq_comm]
  | some flaw => simp

theorem Expr.ofJson_toJson_eq_error_iff (e : Expr) {error : Json.Error} :
    Expr.ofJson e.toJson = .error error ↔ e.flaw? 0 = some error := by
  rw [e.ofJson_toJson]
  cases e.flaw? 0 with
  | none => simp
  | some flaw => simp

/-- A tree without a flaw comes back with its unsigned integers signed, if its doubles read back. -/
theorem Expr.ofJson_toJson_of_flaw? {e : Expr} (hfloats : AllReadBack e.floats)
    (hflaw : e.flaw? 0 = none) : Expr.ofJson e.toJson = .ok e.norm :=
  Expr.ofJson_toJson_eq_ok_iff.mpr ⟨hflaw, (Expr.mapScalars_reread hfloats).symm⟩

/-- If its doubles read back, a tree has no flaw exactly if they are finite and the nesting fits. -/
theorem Expr.flaw?_eq_none_iff_of_readBack {e : Expr} (hfloats : AllReadBack e.floats) :
    e.flaw? 0 = none ↔ AllFinite e.floats ∧ e.nesting ≤ nestingLimit := by
  have hnone := e.flaw?_eq_none_iff (Nat.zero_le nestingLimit)
  rwa [Nat.zero_add, AllFlawless, Expr.forall_flaw?_eq_none_iff hfloats] at hnone

/-- If its doubles read back and are finite, a tree has no other flaw than its nesting. -/
theorem Expr.eq_nesting_of_flaw? {e : Expr} (hfloats : AllReadBack e.floats)
    (hfinite : AllFinite e.floats) {error : Json.Error} (h : e.flaw? 0 = some error) :
    error = .malformed .nesting := by
  rcases e.isFlaw_of_flaw? h with ⟨herror, -⟩ | ⟨s, hs, hflaw⟩
  · exact herror
  · have hnone := (Expr.forall_flaw?_eq_none_iff hfloats).mpr hfinite s hs
    rw [hflaw] at hnone
    cases hnone

/-- **Trees through JSON.** Let the doubles of a tree read back from their texts. The tree comes back,
with its unsigned integers signed where they fit, exactly if its doubles are finite and its document
nests at most 127 deep. Every other document is refused, and for its nesting if the doubles are
finite. -/
theorem Expr.json_transport (e : Expr) (hfloats : AllReadBack e.floats) :
    (Expr.ofJson e.toJson = .ok e.norm ↔ AllFinite e.floats ∧ Json.nesting e.toJson ≤ 127) ∧
    (¬ (AllFinite e.floats ∧ Json.nesting e.toJson ≤ 127) →
      ∃ error, Expr.ofJson e.toJson = .error error) ∧
    (AllFinite e.floats → 127 < Json.nesting e.toJson →
      ∃ error, Expr.ofJson e.toJson = .error error ∧ error.category = .syntactic ∧
        error.message = "recursion limit exceeded") := by
  have hnone := Expr.flaw?_eq_none_iff_of_readBack hfloats
  change e.flaw? 0 = none ↔ AllFinite e.floats ∧ e.nesting ≤ 127 at hnone
  rw [e.nesting_toJson]
  cases hflaw : e.flaw? 0 with
  | none =>
      have hread := Expr.ofJson_toJson_of_flaw? hfloats hflaw
      have hfits := hnone.mp hflaw
      refine ⟨iff_of_true hread hfits, fun hnot => absurd hfits hnot, fun _ hdeep => ?_⟩
      exact absurd hfits.2 (Nat.not_le.mpr hdeep)
  | some error =>
      have hread := e.ofJson_toJson_eq_error_iff.mpr hflaw
      have hnot : ¬ (AllFinite e.floats ∧ e.nesting ≤ 127) := by
        rw [← hnone, hflaw]
        exact Option.some_ne_none error
      refine ⟨iff_of_false (by simp [hread]) hnot, fun _ => ⟨error, hread⟩, fun hfinite _ => ?_⟩
      obtain rfl := Expr.eq_nesting_of_flaw? hfloats hfinite hflaw
      exact ⟨_, hread, rfl, rfl⟩

/-- An unsigned integer comes back signed, and -2.5 as itself. -/
theorem Expr.json_transport_signed :
    AllReadBack (Expr.node .equals (.value (.uint 5))
      (.value (.float (.finite true .fiveHalves)))).floats ∧
    Expr.ofJson (Expr.node .equals (.value (.uint 5))
      (.value (.float (.finite true .fiveHalves)))).toJson =
        .ok (.node .equals (.value (.int 5)) (.value (.float (.finite true .fiveHalves)))) := by
  have hfloats : AllReadBack (Expr.node .equals (.value (.uint 5))
      (.value (.float (.finite true .fiveHalves)))).floats :=
    List.forall_mem_singleton.mpr (Binary64.readsBack_fiveHalves true)
  have hfits : AllFinite (Expr.node .equals (.value (.uint 5))
      (.value (.float (.finite true .fiveHalves)))).floats :=
    List.forall_mem_singleton.mpr rfl
  exact ⟨hfloats, (Expr.json_transport _ hfloats).1.mpr ⟨hfits, by decide +kernel⟩⟩

/-- A number that is none is written as `null`, which is no constant. -/
example : Expr.ofJson (Expr.unary .not (.value (.float .nan))).toJson =
    .error (.misfit .scalar) := by
  rfl

end SqlFilter
