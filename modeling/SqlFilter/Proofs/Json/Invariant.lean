import SqlFilter.Proofs.Json.Sound

set_option autoImplicit false

/-! # What the reader keeps

Whatever a document looks like, the reader counts at least the brackets and braces that the writer
will use, so what it reads can be written within the limit. One character leads from a sound state
to a sound one (`State.sound_step`), and so does a text (`State.sound_run`); what comes out of a
sound state at the end of a document is good. So a tree that was read is canonical, has a bounded
depth, and comes back as it is if its doubles read back (`Expr.ofJson_canonical`).
-/

namespace SqlFilter.Json

variable {ρ : Type} {good : ρ → Prop}

/-! ## Names and keys -/

theorem Choice.sound_bare {choice : Choice ρ} (h : choice.Sound good) (name : String) :
    (choice.bare name).Sound good := by
  cases choice with
  | operator hole =>
      rw [bare]
      split
      · exact OperatorHole.sound_fill h _
      · exact True.intro
  | operand hole =>
      rw [bare]
      split
      · exact OperandHole.sound_fill h (Operand.fits_absent (OperandHole.Sound.depth_le h))
      · exact True.intro
      · exact True.intro

theorem OperandKind.sound_slot (kind : OperandKind) {hole : OperandHole ρ} (h : hole.Inside good) :
    (kind.slot hole).Sound good := by
  cases kind with
  | absent => exact h.1
  | expr => exact h
  | list => exact h.1
  | range => exact h
  | column => exact h
  | value => exact h

theorem Choice.sound_named {choice : Choice ρ} (h : choice.Inside good) (name : String) :
    (choice.named name).Sound good := by
  cases choice with
  | operator hole =>
      rw [named]
      split
      · exact h.1
      · exact True.intro
  | operand hole =>
      rw [named]
      split
      · exact OperandKind.sound_slot _ h
      · exact True.intro

theorem NodeField.sound_spot (field : NodeField) (form : Form) {draft : NodeDraft}
    {hole : ExprHole ρ} (h : draft.Sound good hole) : (field.spot form draft hole).Sound good := by
  cases field with
  | op => exact h
  | side which => exact h

theorem BoundaryField.sound_spot (field : BoundaryField) (form : Form) (draft : BoundaryDraft)
    {hole : BoundaryHole ρ} (h : hole.Inside good) : (field.spot form draft hole).Sound good := by
  cases field with
  | bound which => exact h
  | inclusive => exact h

theorem NodeDraft.sound_key {draft : NodeDraft} {hole : ExprHole ρ} (h : draft.Sound good hole)
    (name : String) : (draft.key hole name).Sound good := by
  rw [key]
  split
  · exact h
  · split
    · exact True.intro
    · exact NodeField.sound_spot _ _ h

theorem BoundaryDraft.sound_key (draft : BoundaryDraft) {hole : BoundaryHole ρ}
    (h : hole.Inside good) (name : String) : (draft.key hole name).Sound good := by
  rw [key]
  split
  · exact h
  · split
    · exact True.intro
    · exact BoundaryField.sound_spot _ _ _ h

theorem TextUse.sound_finish {use : TextUse ρ} (h : use.Sound good) (text : String) :
    (use.finish text).Sound good := by
  cases use with
  | bare choice => exact Choice.sound_bare h text
  | variant choice => exact Choice.sound_named h text
  | value slot => exact Slot.sound_accept h True.intro
  | nodeKey draft hole => exact NodeDraft.sound_key h text
  | boundaryKey draft hole => exact BoundaryDraft.sound_key draft h text
  | passingKey outer passage => exact h

/-! ## Brackets and braces -/

/-- A bracket or brace is opened only where it is not one too many. -/
theorem Stage.sound_nested {depth : Nat} {stage : Stage ρ}
    (h : depth < nestingLimit → stage.Sound good) : (stage.nested depth).Sound good := by
  rw [nested]
  split
  · next hlt => exact h hlt
  · exact True.intro

theorem Slot.sound_opened {slot : Slot ρ} (h : slot.Sound good) (form : Form) :
    (slot.opened form).Sound good := by
  cases slot with
  | node hole =>
      have hopen : hole.depth < nestingLimit → NodeDraft.empty.Sound good hole :=
        fun hlt => ⟨h, hlt, NodeDraft.fits_empty _⟩
      cases form with
      | object => exact Stage.sound_nested hopen
      | array => exact Stage.sound_nested hopen
  | boundary hole =>
      have hopen : hole.depth < nestingLimit → hole.Inside good := fun hlt => ⟨h, hlt⟩
      cases form with
      | object => exact Stage.sound_nested hopen
      | array => exact Stage.sound_nested hopen
  | items operand =>
      cases form with
      | object => exact True.intro
      | array =>
          exact Stage.sound_nested fun hlt => ⟨h, hlt, fun tree htree => nomatch htree⟩
  | text hole => cases form <;> exact True.intro
  | flag hole => cases form <;> exact True.intro
  | unit hole => cases form <;> exact True.intro
  | scalar hole => exact Stage.sound_nested fun _ => True.intro
  | passing outer passage =>
      cases passage with
      | scalar hole => exact Stage.sound_nested fun _ => True.intro
      | node draft hole => exact h
      | boundary draft hole => exact h

/-- A node with its operator read fits around sides that fit; an absent side fits everywhere. -/
theorem NodeDraft.Sound.fits_expr? {draft : NodeDraft} {hole : ExprHole ρ}
    (h : draft.Sound good hole) {tree : Expr} (htree : draft.expr? = some tree) :
    tree.Fits hole.depth := by
  obtain ⟨-, hlt, hleft, hright⟩ := h
  have hside : ∀ side : Option Operand,
      (∀ operand, side = some operand → operand.Fits (hole.depth + 1)) →
      (side.getD .absent).Fits (hole.depth + 1) := by
    intro side hfits
    cases side with
    | none => exact Operand.fits_absent hlt
    | some operand => exact hfits operand rfl
  obtain ⟨op, -, rfl⟩ := Option.map_eq_some_iff.mp htree
  exact Expr.fits_node op (hside _ hleft) (hside _ hright)

theorem Open.sound_close {bracket : Open ρ} (h : bracket.Sound good) :
    bracket.close.Sound good := by
  cases bracket with
  | node draft hole =>
      rw [close]
      split
      · next tree htree => exact ExprHole.sound_fill h.1 (NodeDraft.Sound.fits_expr? h htree)
      · exact True.intro
  | nodeList next draft hole =>
      rw [close]
      split
      · next tree htree => exact ExprHole.sound_fill h.1 (NodeDraft.Sound.fits_expr? h htree)
      · exact True.intro
  | boundary draft hole =>
      rw [close]
      split
      · exact BoundaryHole.sound_fill h _
      · exact True.intro
  | boundaryList next draft hole =>
      rw [close]
      split
      · exact BoundaryHole.sound_fill h _
      · exact True.intro
  | items before operand =>
      have hitems : ∀ item ∈ before.reverse, item.Fits (operand.depth + 2) :=
        fun item hitem => h.2.2 item (List.mem_reverse.mp hitem)
      exact OperandHole.sound_fill h.1 (Operand.fits_list h.2.1 hitems)
  | passing form outer passage => exact Passage.sound_passed h outer

theorem Open.sound_item {bracket : Open ρ} (h : bracket.Sound good) {spot : Spot ρ}
    (hspot : bracket.item? = some spot) : spot.Sound good := by
  cases bracket with
  | node draft hole => cases hspot
  | boundary draft hole => cases hspot
  | nodeList next draft hole =>
      obtain ⟨field, -, rfl⟩ := Option.map_eq_some_iff.mp hspot
      exact NodeField.sound_spot field _ h
  | boundaryList next draft hole =>
      obtain ⟨field, -, rfl⟩ := Option.map_eq_some_iff.mp hspot
      exact BoundaryField.sound_spot field _ draft h
  | items before operand =>
      obtain rfl := Option.some.inj hspot
      exact h
  | passing form outer passage =>
      obtain rfl := Option.some.inj hspot
      exact h

theorem Open.sound_key {bracket : Open ρ} (h : bracket.Sound good) : bracket.key.Sound good := by
  cases bracket with
  | node draft hole => exact h
  | boundary draft hole => exact h
  | passing form outer passage => exact h
  | nodeList next draft hole => exact True.intro
  | boundaryList next draft hole => exact True.intro
  | items before operand => exact True.intro

/-! ## One character -/

theorem Slot.sound_begin {slot : Slot ρ} (h : slot.Sound good) (c : Char) :
    (slot.begin c).Sound good := by
  rw [begin]
  split
  · exact h
  split
  · exact sound_opened h .array
  split
  · exact sound_opened h .object
  split
  · exact ⟨True.intro, h⟩
  split
  · exact ⟨True.intro, h⟩
  split
  · exact ⟨True.intro, h⟩
  split
  · exact h
  · exact True.intro

theorem Spot.sound_begin {spot : Spot ρ} (h : spot.Sound good) (c : Char) :
    (spot.begin c).Sound good := by
  cases spot with
  | choice names =>
      rw [begin]
      split
      · exact h
      split
      · exact Stage.sound_nested fun hlt => ⟨h, hlt⟩
      · exact True.intro
  | slot place => exact Slot.sound_begin h c

theorem Open.sound_stepObject {bracket : Open ρ} (h : bracket.Sound good) (phase : Phase)
    (c : Char) : (bracket.stepObject phase c).Sound good := by
  cases phase with
  | first =>
      rw [stepObject]
      split
      · exact sound_key h
      split
      · exact sound_close h
      · exact True.intro
  | after =>
      rw [stepObject]
      split
      · exact h
      split
      · exact sound_close h
      · exact True.intro
  | next =>
      rw [stepObject]
      split
      · exact sound_key h
      split
      · exact True.intro
      · exact True.intro

theorem Open.sound_stepArray {bracket : Open ρ} (h : bracket.Sound good) (phase : Phase)
    (c : Char) : (bracket.stepArray phase c).Sound good := by
  have hitem : ∀ spot, bracket.item? = some spot → (spot.begin c).Sound good :=
    fun spot hspot => Spot.sound_begin (sound_item h hspot) c
  cases phase with
  | first =>
      cases hspot : bracket.item? with
      | some spot =>
          simp only [stepArray, hspot]
          split
          · exact sound_close h
          · exact hitem spot hspot
      | none =>
          simp only [stepArray, hspot]
          split
          · exact sound_close h
          · exact True.intro
  | after =>
      rw [stepArray]
      split
      · exact h
      split
      · exact sound_close h
      · exact True.intro
  | next =>
      rw [stepArray]
      split
      · exact True.intro
      split
      · next spot hspot => exact hitem spot hspot
      · exact True.intro

theorem Stage.sound_stepSolid {stage : Stage ρ} (h : stage.Sound good) (c : Char) :
    (stage.stepSolid c).Sound good := by
  cases stage with
  | failed error => exact True.intro
  | finished result => exact True.intro
  | expecting spot => exact Spot.sound_begin h c
  | word next rest atom slot => exact h
  | text scan use => exact h
  | colon spot =>
      rw [stepSolid]
      split
      · exact h
      · exact True.intro
  | variant choice =>
      rw [stepSolid]
      split
      · exact h
      split
      · exact True.intro
      · exact True.intro
  | inside phase bracket =>
      rw [stepSolid]
      split
      · exact Open.sound_stepObject h phase c
      · exact Open.sound_stepArray h phase c
  | closing next =>
      rw [stepSolid]
      split
      · exact h
      · exact True.intro

theorem Stage.sound_step {stage : Stage ρ} (h : stage.Sound good) (c : Char) :
    (stage.step c).Sound good := by
  -- outside of words and strings white space is passed over
  have hsolid : (if isSpace c then State.at stage else stage.stepSolid c).Sound good := by
    split
    · exact h
    · exact sound_stepSolid h c
  cases stage with
  | failed error => exact True.intro
  | word next rest atom slot =>
      simp only [step]
      split
      · cases rest with
        | nil => exact Slot.sound_accept h.2 h.1
        | cons next rest => exact h
      · exact True.intro
  | text scan use =>
      rw [step]
      split
      · exact h
      · exact TextUse.sound_finish h _
      · exact True.intro
  | finished result => exact hsolid
  | expecting spot => exact hsolid
  | colon spot => exact hsolid
  | variant choice => exact hsolid
  | inside phase bracket => exact hsolid
  | closing next => exact hsolid

namespace State

/-- One character keeps a state sound. -/
theorem sound_step {state : State ρ} (h : state.Sound good) (c : Char) :
    (state.step c).Sound good := by
  cases state with
  | «at» stage => exact Stage.sound_step h c
  | number scan slot =>
      rw [step]
      split
      · exact h
      · exact Stage.sound_step (Slot.sound_acceptNumber h scan) c
      · exact True.intro

/-- A text keeps a state sound. -/
theorem sound_run {state : State ρ} (h : state.Sound good) (text : List Char) :
    (state.run text).Sound good := by
  induction text generalizing state with
  | nil => exact h
  | cons c text ih => exact ih (sound_step h c)

end State

/-! ## The end of the document -/

theorem Stage.good_of_finish {stage : Stage ρ} (h : stage.Sound good) {result : ρ}
    (hfinish : stage.finish = .ok result) : good result := by
  cases stage with
  | finished other =>
      obtain rfl := Except.ok.inj hfinish
      exact h
  | failed error => cases hfinish
  | expecting spot => cases hfinish
  | word next rest atom slot => cases hfinish
  | text scan use => cases hfinish
  | colon spot => cases hfinish
  | variant choice => cases hfinish
  | inside phase bracket => cases hfinish
  | closing next => cases hfinish

/-- What is read from a sound state is good. -/
theorem State.good_of_read {state : State ρ} (h : state.Sound good) {document : String} {result : ρ}
    (hread : state.read document = .ok result) : good result := by
  have hrun := sound_run h document.toList
  rw [read] at hread
  cases hstate : state.run document.toList with
  | «at» stage =>
      rw [hstate] at hread hrun
      exact Stage.good_of_finish hrun hread
  | number scan slot =>
      rw [hstate, finish] at hread
      rw [hstate] at hrun
      split at hread
      · exact Stage.good_of_finish (Slot.sound_acceptNumber hrun scan) hread
      · split at hread
        · cases hread
        · cases hread

end SqlFilter.Json

namespace SqlFilter

open Json

/-! ## Documents -/

/-- A tree that was read is canonical, and its nesting stays within the limit. -/
theorem Expr.fits_of_ofJson {document : String} {e : Expr} (h : Expr.ofJson document = .ok e) :
    e.Fits 0 := by
  have hbefore : (State.before (.slot (.node (.document id)))).Sound fun tree : Expr =>
      tree.Fits 0 := fun tree htree => htree
  exact State.good_of_read hbefore h

/-- **Trees that were read are canonical and bounded.** However a document is spelled, the tree in
it has unsigned integers only above the signed ones and doubles only where they are finite, and it
has at most 64 levels. If its doubles read back from their texts, it comes back from its own document
as the same tree, so reading and writing again does not change the document any more. -/
theorem Expr.ofJson_canonical {document : String} {e : Expr} (h : Expr.ofJson document = .ok e) :
    (∀ value : UInt64, Scalar.uint value ∈ e.scalars → Int64.maxValue.toInt < value.toNat) ∧
    (∀ x : Binary64, Scalar.float x ∈ e.scalars → x.isFinite = true) ∧
    e.depth ≤ 64 ∧ e.same e = true ∧
    (AllReadBack e.floats → Expr.ofJson e.toJson = .ok e ∧
      (Expr.ofJson e.toJson).map Expr.toJson = .ok e.toJson) := by
  have hfits := Expr.fits_of_ofJson h
  refine ⟨?_, ?_, hfits.depth_le, Expr.same_self_of_allCanonical hfits.canonical, ?_⟩
  · intro value hvalue
    have hlarge : 2 ^ 63 ≤ value.toNat := hfits.canonical _ hvalue
    rw [Int64.toInt_maxValue]
    omega
  · intro x hx
    exact hfits.canonical _ hx
  · intro hfloats
    have hread := hfits.ofJson_toJson hfloats
    refine ⟨hread, ?_⟩
    rw [hread]
    rfl

/-- The double 2.5 and the least integer that stays unsigned, in a document with a power of ten, an
escape, its members in another order and one that has no meaning. -/
theorem Expr.ofJson_canonical_respelled :
    Expr.ofJson ("\x7b\"x\":[\x7b\x7d], \"right\":\x7b\"value\":25e-1\x7d,\"left\":" ++
        "\x7b\"value\":9223372036854775808\x7d,\"op\":\x7b\"n\\u006ft\":null\x7d\x7d") =
      .ok (.node .not (.value (.uint (UInt64.ofNat 9223372036854775808)))
        (.value (.float (.finite false .fiveHalves)))) ∧
    AllReadBack (Expr.node .not (.value (.uint (UInt64.ofNat 9223372036854775808)))
      (.value (.float (.finite false .fiveHalves)))).floats ∧
    Expr.ofJson (Expr.node .not (.value (.uint (UInt64.ofNat 9223372036854775808)))
        (.value (.float (.finite false .fiveHalves)))).toJson =
      .ok (.node .not (.value (.uint (UInt64.ofNat 9223372036854775808)))
        (.value (.float (.finite false .fiveHalves)))) := by
  have hnumber : IsNumberText "25e-1".toList (.float (.finite false .fiveHalves)) :=
    ⟨_, rfl, rfl, by decide +kernel⟩
  have hread : Expr.ofJson
      ("\x7b\"x\":[\x7b\x7d], \"right\":\x7b\"value\":25e-1\x7d,\"left\":" ++
        "\x7b\"value\":9223372036854775808\x7d,\"op\":\x7b\"n\\u006ft\":null\x7d\x7d") =
      .ok (.node .not (.value (.uint (UInt64.ofNat 9223372036854775808)))
        (.value (.float (.finite false .fiveHalves)))) := by
    -- the text in front of the double, the double with its brace, and the text behind it
    let hole : OperandHole Expr := .side .right .object .empty (.document id)
    have hbefore : (State.before (.slot (.node (.document id)))).run
        "\x7b\"x\":[\x7b\x7d], \"right\":\x7b\"value\":".toList =
          .at (.expecting (.slot (.scalar (.value hole)))) := rfl
    have hvalue : (State.at (.expecting (.slot (.scalar (.value hole))))).run
        ("25e-1".toList ++ ['\x7d']) =
          .at (hole.fill (.value (.float (.finite false .fiveHalves)))) :=
      run_numberText _ hnumber (.inr (.inr (.inr rfl)))
    have hbehind : ((State.at (hole.fill (.value (.float (.finite false .fiveHalves))))).run
        (",\"left\":\x7b\"value\":9223372036854775808\x7d," ++
          "\"op\":\x7b\"n\\u006ft\":null\x7d\x7d").toList).finish =
        .ok (.node .not (.value (.uint (UInt64.ofNat 9223372036854775808)))
          (.value (.float (.finite false .fiveHalves)))) := rfl
    rw [← hvalue, ← hbefore, ← State.run_append, ← State.run_append] at hbehind
    exact hbehind
  have hfloats : AllReadBack (Expr.node .not (.value (.uint (UInt64.ofNat 9223372036854775808)))
      (.value (.float (.finite false .fiveHalves)))).floats :=
    List.forall_mem_singleton.mpr (Binary64.readsBack_fiveHalves false)
  exact ⟨hread, hfloats, ((Expr.ofJson_canonical hread).2.2.2.2 hfloats).1⟩

end SqlFilter
