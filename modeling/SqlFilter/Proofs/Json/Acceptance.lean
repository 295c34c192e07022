import SqlFilter.Proofs.Json.Invariant
import SqlFilter.Proofs.Json.Parts
import SqlFilter.Proofs.Json.Written

set_option autoImplicit false

/-! # Every text of a tree is read as the tree

Whatever is chosen at each node of a text, the reader takes it for the same tree
(`Expr.ofJson_of_presentedBy`). `Operand.IsAccepted` says so of an operand wherever it stands; it
passes from the sides of a node to the node, whatever the form of the node. A tree whose doubles read
back has a text exactly if it is canonical and does not nest too deep
(`Expr.exists_presentedBy_iff`).
-/

namespace SqlFilter

open Json

variable {ρ : Type}

/-! ## Nodes -/

theorem Operand.Presents.beginsItem {operand : Operand} {room : Nat} {text : List Char}
    (h : operand.Presents room text) : BeginsItem text := by
  cases h with
  | absent htext => exact htext.beginsItem
  | absentContent _ htext => exact htext.beginsItem
  | expr _ htext => exact htext.beginsItem
  | list _ _ htext => exact htext.beginsItem
  | range _ htext => exact htext.beginsItem
  | column _ htext => exact htext.beginsItem
  | value _ htext => exact htext.beginsItem

theorem Expr.Presents.beginsItem {e : Expr} {room : Nat} {text : List Char}
    (h : e.Presents room text) : BeginsItem text := by
  cases h with
  | object _ _ _ _ htext => exact htext.beginsItem
  | list _ _ _ htext => exact htext.beginsItem
  | listWithoutRight _ _ _ htext => exact htext.beginsItem
  | listOfOperator _ _ _ htext => exact htext.beginsItem

/-- Wherever an operand is asked for, every text that presents this one is read as it. -/
def Operand.IsAccepted (ρ : Type) (operand : Operand) : Prop :=
  ∀ (hole : OperandHole ρ) (room : Nat) (text : List Char), operand.Presents room text →
    hole.depth + room ≤ nestingLimit →
      Reads (.expecting (.choice (.operand hole))) text none (hole.fill operand)

/-- Wherever a tree is asked for, every text that presents this one is read as it. -/
def Expr.IsAccepted (ρ : Type) (e : Expr) : Prop :=
  ∀ (hole : ExprHole ρ) (room : Nat) (text : List Char), e.Presents room text →
    hole.depth + room ≤ nestingLimit →
      Reads (.expecting (.slot (.node hole))) text none (hole.fill e)

section Node

variable {e : Expr} (hole : ExprHole ρ) (seen : List NodeField) {room : Nat} {text : List Char}

theorem Expr.reads_op (form : Form) (h : e.op.Presents room text)
    (hroom : hole.depth + 1 + room ≤ nestingLimit) :
    Reads (.expecting (NodeField.op.spot form (e.draft seen) hole)) text none
      (NodeField.op.filled form (e.draft (.op :: seen)) hole) := by
  rw [← e.setOp_draft seen]
  exact h.reads (.op form (e.draft seen) hole) hroom

theorem Expr.reads_side {which : Side} (haccepted : (e.side which).IsAccepted ρ) (form : Form)
    (h : (e.side which).Presents room text) (hroom : hole.depth + 1 + room ≤ nestingLimit) :
    Reads (.expecting ((NodeField.side which).spot form (e.draft seen) hole)) text none
      ((NodeField.side which).filled form (e.draft (.side which :: seen)) hole) := by
  rw [← e.setSide_draft seen which]
  exact haccepted (.side which form (e.draft seen) hole) room text h hroom

/-- A field of a node as a member, when it has not been seen yet. -/
theorem Expr.leads_field {field : NodeField} (hnew : field ∉ seen) {value : List Char}
    (htext : IsMember field.name value text)
    (hvalue : Leads (.expecting (field.spot .object (e.draft seen) hole)) value
      (field.filled .object (e.draft (field :: seen)) hole)) (phase : Phase)
    (hphase : phase ≠ .after) :
    Leads (.inside phase (.node (e.draft seen) hole)) text
      (.inside .after (.node (e.draft (field :: seen)) hole)) :=
  leads_member (.nodeKey (e.draft seen) hole) rfl (skipsSpace_inside _ _)
    (step_quote rfl hphase) (finish_nodeKey field (e.has_draft seen hnew)) htext hvalue

/-- A member of a node that has no meaning. -/
theorem Expr.leads_unknownMember {name : String} (hname : NodeField.ofName? name = none)
    {value : List Char} (hvalue : IsJson value) (htext : IsMember name value text) (phase : Phase)
    (hphase : phase ≠ .after) :
    Leads (.inside phase (.node (e.draft seen) hole)) text
      (.inside .after (.node (e.draft seen) hole)) := by
  have hkey : (TextUse.nodeKey (e.draft seen) hole).finish name =
      .colon (.slot (.passing [] (.node (e.draft seen) hole))) := by
    rw [TextUse.finish, NodeDraft.key, hname]
  exact leads_unknown rfl rfl rfl rfl hkey hvalue htext hphase

/-- A field of a node as an item, when it is the next one. -/
theorem Expr.leads_listItem {field : NodeField} (hbegins : BeginsItem text)
    (hvalue : Reads (.expecting (field.spot .array (e.draft seen) hole)) text none
      (field.filled .array (e.draft (field :: seen)) hole)) (phase : Phase)
    (hphase : phase ≠ .after) :
    Leads (.inside phase (.nodeList (some field) (e.draft seen) hole)) text
      (.inside .after (.nodeList field.next? (e.draft (field :: seen)) hole)) :=
  leads_item (.nodeList (some field) (e.draft seen) hole) rfl rfl hbegins hvalue.leads phase hphase

theorem Expr.leads_presentsMember (hsides : ∀ which, (e.side which).IsAccepted ρ)
    {field? : Option NodeField} (h : Expr.PresentsMember room e field? text)
    (hroom : hole.depth + 1 + room ≤ nestingLimit) (phase : Phase) (hphase : phase ≠ .after)
    (hnew : ∀ field ∈ field?, field ∉ seen) :
    Leads (.inside phase (.node (e.draft seen) hole)) text
      (.inside .after (.node (e.draft (field?.toList ++ seen)) hole)) := by
  cases h with
  | op hvalue htext =>
      exact leads_field hole seen (hnew _ rfl) htext (reads_op hole seen .object hvalue hroom).leads
        phase hphase
  | @side _ _ which _ _ hvalue htext =>
      exact leads_field hole seen (hnew _ rfl) htext
        (reads_side hole seen (hsides which) .object hvalue hroom).leads phase hphase
  | unknown hname hvalue htext =>
      exact leads_unknownMember hole seen hname hvalue htext phase hphase

/-- The fields of a node in a list, as far as they go. -/
theorem Expr.reads_nodeList {items : List (List Char)} {next : Option NodeField}
    (hdepth : hole.depth < nestingLimit)
    (hchain : Chain (.nodeList (some .op) (e.draft []) hole) items
      (.nodeList next (e.draft seen) hole))
    (hop : .op ∈ seen) (hsides : ∀ which, .side which ∈ seen ∨ e.side which = .absent)
    (htext : Encloses .array items text) :
    Reads (.expecting (.slot (.node hole))) text none (hole.fill e) := by
  have hopened : (Slot.node hole).opened .array =
      .inside .first (.nodeList (some .op) (e.draft []) hole) := Stage.nested_of_lt hdepth _
  have hread := reads_encloses hopened hchain htext
  rw [Open.close, expr?_draft e hop hsides] at hread
  exact hread

/-- A node is accepted if its two sides are. -/
theorem Expr.isAccepted_of_sides (hsides : ∀ which, (e.side which).IsAccepted ρ) :
    e.IsAccepted ρ := by
  intro hole room text h hroom
  cases h with
  | @object room _ members _ hmembers hnodup hop hwhich htext =>
      have hopened : (Slot.node hole).opened .object =
          .inside .first (.node (e.draft []) hole) := Stage.nested_of_lt (by omega) _
      obtain ⟨seen, hchain, hseen⟩ := exists_chain_members Prod.fst Prod.snd
        (fun seen => Open.node (e.draft seen) hole)
        (fun m hm seen hnew phase hphase =>
          leads_presentsMember hole seen hsides (hmembers m hm) (by omega) phase hphase hnew)
        hnodup
      have hread := reads_encloses hopened hchain htext
      rw [Open.close, expr?_draft e ((hseen .op).mpr hop)
        (fun which => (hwhich which).imp_left (hseen (.side which)).mpr)] at hread
      exact hread
  | list hop hleft hright htext =>
      have hfirst := leads_listItem hole [] hop.beginsItem
        (reads_op hole [] .array hop (by omega))
      have hsecond := leads_listItem hole [.op] hleft.beginsItem
        (reads_side hole [.op] (hsides .left) .array hleft (by omega))
      have hthird := leads_listItem hole [.side .left, .op] hright.beginsItem
        (reads_side hole [.side .left, .op] (hsides .right) .array hright (by omega))
      refine reads_nodeList hole [.side .right, .side .left, .op] (by omega)
        (.cons hfirst (.cons hsecond (.cons hthird (.nil _)))) (by simp) (fun which => .inl ?_) htext
      cases which <;> simp
  | listWithoutRight hop hleft hright htext =>
      have hfirst := leads_listItem hole [] hop.beginsItem
        (reads_op hole [] .array hop (by omega))
      have hsecond := leads_listItem hole [.op] hleft.beginsItem
        (reads_side hole [.op] (hsides .left) .array hleft (by omega))
      refine reads_nodeList hole [.side .left, .op] (by omega)
        (.cons hfirst (.cons hsecond (.nil _))) (by simp) (fun which => ?_) htext
      cases which with
      | left => exact .inl (by simp)
      | right => exact .inr hright
  | listOfOperator hop hleft hright htext =>
      have hfirst := leads_listItem hole [] hop.beginsItem
        (reads_op hole [] .array hop (by omega))
      refine reads_nodeList hole [.op] (by omega) (.cons hfirst (.nil _)) (by simp)
        (fun which => .inr ?_) htext
      cases which with
      | left => exact hleft
      | right => exact hright

end Node

/-! ## Trees -/

/-- An operand other than an absent one is its kind with a content, in braces. -/
theorem reads_content (kind : OperandKind) (hole : OperandHole ρ)
    (hdepth : hole.depth < nestingLimit) {value text : List Char}
    (h : IsVariant kind.name value text) {operand : Operand}
    (hvalue : Leads (.expecting (.slot (kind.slot hole))) value (.closing (hole.fill operand))) :
    Reads (.expecting (.choice (.operand hole))) text none (hole.fill operand) := by
  have hname : (Choice.operand hole).named kind.name = .colon (.slot (kind.slot hole)) := by
    rw [Choice.named, OperandKind.ofName?_name]
  exact reads_variant hdepth hname h hvalue

-- By recursion on the tree; what may be chosen at a node has been dealt with above.

mutual

/-- Every text of a tree is read as the tree. -/
theorem Expr.isAccepted (e : Expr) : e.IsAccepted ρ := by
  cases e with
  | node op left right =>
      refine Expr.isAccepted_of_sides fun which => ?_
      cases which with
      | left => exact left.isAccepted
      | right => exact right.isAccepted

/-- Every text of an operand is read as the operand. -/
theorem Operand.isAccepted (operand : Operand) : operand.IsAccepted ρ := by
  intro hole room text h hroom
  cases h with
  | absent htext =>
      exact reads_name (.bare (.operand hole)) rfl (skipsSpace_expecting _) rfl htext
  | absentContent hvalue htext =>
      exact reads_content .absent hole (by omega) htext (reads_null (.absent hole) hvalue).leads
  | @expr room tree value _ hvalue htext =>
      have hread := tree.isAccepted (.inner hole) room value hvalue (by
        show hole.depth + 1 + room ≤ nestingLimit
        omega)
      exact reads_content .expr hole (by omega) htext hread.leads
  | @list room items texts value _ hitems hvalue htext =>
      have hopened : (Slot.items hole).opened .array = .inside .first (.items [] hole) :=
        Stage.nested_of_lt (by omega) _
      have hchain := Expr.chain_items items [] hole hitems (by omega)
      have hread := reads_encloses hopened hchain hvalue
      rw [Open.close, List.append_nil, List.reverse_reverse] at hread
      exact reads_content .list hole (by omega) htext hread.leads
  | range hvalue htext =>
      have hread := hvalue.reads (.operand hole) (by
        show hole.depth + 1 + _ ≤ nestingLimit
        omega)
      exact reads_content .range hole (by omega) htext hread.leads
  | column hvalue htext =>
      have hread := reads_text (.text (.column hole)) rfl hvalue
      exact reads_content .column hole (by omega) htext hread.leads
  | value hvalue htext =>
      exact reads_content .value hole (by omega) htext (hvalue.leads (.value hole))

/-- The texts of the items of a list come in front of the items before them. -/
theorem Expr.chain_items (items before : List Expr) (hole : OperandHole ρ) {room : Nat}
    {texts : List (List Char)} (h : Expr.PresentsAll room items texts)
    (hroom : hole.depth + 2 + room ≤ nestingLimit) :
    Chain (.items before hole) texts (.items (items.reverse ++ before) hole) := by
  cases h with
  | nil => exact .nil _
  | @cons _ item rest text texts hitem hrest =>
      have hread := item.isAccepted (.item before hole) room text hitem hroom
      have hfirst := leads_item (.items before hole) rfl rfl hitem.beginsItem hread.leads
      rw [List.reverse_cons, ← List.append_cons]
      exact .cons hfirst (Expr.chain_items rest (item :: before) hole hrest hroom)

end

/-- At the end of a document that presents a tree the reader has the tree. -/
theorem Expr.PresentedBy.run {e : Expr} {document : String} (h : e.PresentedBy document) :
    (State.before (.slot (.node (.document id)))).run document.toList = .at (.finished e) := by
  obtain ⟨text, space, hpresents, hspace, hdocument⟩ := h
  have hread := e.isAccepted (.document id) nestingLimit text hpresents (Nat.zero_add _).le
  rw [hdocument]
  exact hread.append (reads_blank (skipsSpace_finished e) hspace)

/-- **Which trees have a text.** If its doubles read back from the texts that are written of them,
some document presents a tree exactly if the tree is canonical and its nesting stays within the
limit. -/
theorem Expr.exists_presentedBy_iff {e : Expr} (hfloats : AllReadBack e.floats) :
    (∃ document, e.PresentedBy document) ↔ e.Fits 0 := by
  constructor
  · rintro ⟨document, h⟩
    have hread : Expr.ofJson document = .ok e := by
      rw [ofJson, State.read, h.run]
      rfl
    exact Expr.fits_of_ofJson hread
  · intro h
    exact ⟨e.toJson, Expr.presentedBy_toJson h hfloats⟩

/-- **Every text of a tree is read as the tree.** At each node the text may be an object with its
members in any order and members without meaning between them, or a list without the absent sides at
its end; names, escapes, numbers and white space are as one likes. Only the nesting outside members
without meaning is limited. -/
theorem Expr.ofJson_of_presentedBy {e : Expr} {document : String} (h : e.PresentedBy document) :
    Expr.ofJson document = .ok e := by
  rw [ofJson, State.read, h.run]
  rfl

/-- A list without its right side. Inside it there is an object with its members in another order,
one of them without meaning, escapes in names and a pair of surrogates. -/
theorem Expr.presentedBy_respelled :
    (Expr.node .and (.expr (.node .not (.column ⟨"😀"⟩) .absent)) .absent).PresentedBy
      ("[ \x7b\"and\":null\x7d ,\x7b\"expr\":\x7b\"\\u0078\":[1e999,\"\\ud800\"]," ++
        "\"left\":\x7b\"column\":\"\\uD83D\\ude00\"\x7d,\"op\":\"n\\u006ft\"\x7d\x7d] ") := by
  let inner : Expr := .node .not (.column ⟨"😀"⟩) .absent
  -- the member without meaning: a number that is too large, and half a pair of surrogates
  have hunknown : Expr.PresentsMember 124 inner none
      ("\"\\u0078\":".toList ++ Json.list ["1e999".toList, "\"\\ud800\"".toList]) := by
    let form : NumberForm := ⟨false, ['1'], none, some ⟨false, none, ['9', '9', '9'], by decide⟩,
      ⟨by decide, by simp, by simp⟩, by simp⟩
    have hlarge : IsJson "1e999".toList := .number form (Spaced.self _)
    have hunit : IsUnit "d800".toList 0xD800 :=
      .mk (x := 13) (y := 8) (z := 0) (w := 0) (by decide) (by decide) (by decide) (by decide)
    have hhalf : IsJson "\"\\ud800\"".toList :=
      .string ⟨"\\ud800".toList, .unit hunit .nil, Spaced.self _⟩
    have hitems : ∀ item ∈ ["1e999".toList, "\"\\ud800\"".toList], IsJson item := by
      simp only [List.forall_mem_cons]
      exact ⟨hlarge, hhalf, fun _ hitem => absurd hitem List.not_mem_nil⟩
    have hkey : IsUnit "0078".toList 'x'.toNat :=
      .mk (x := 0) (y := 0) (z := 7) (w := 8) (by decide) (by decide) (by decide) (by decide)
    have hname : NodeField.ofName? "x" = none := by decide
    exact .unknown hname (.list hitems (encloses_list _))
      ⟨_, [':'], ⟨"\\u0078".toList, .unit hkey .nil, Spaced.self _⟩, Spaced.self _, rfl⟩
  have hleft : Expr.PresentsMember 124 inner (some (.side .left))
      (member "left" (object [member "column" "\"\\uD83D\\ude00\"".toList])) := by
    have hhigh : IsUnit "D83D".toList (0xD800 + 0x3D) :=
      .mk (x := 13) (y := 8) (z := 3) (w := 13) (by decide) (by decide) (by decide) (by decide)
    have hlow : IsUnit "de00".toList (0xDC00 + 0x200) :=
      .mk (x := 13) (y := 14) (z := 0) (w := 0) (by decide) (by decide) (by decide) (by decide)
    have hcolumn : IsName "😀" "\"\\uD83D\\ude00\"".toList :=
      ⟨"\\uD83D\\ude00".toList, .pair (by decide) (by decide) hhigh hlow rfl .nil, Spaced.self _⟩
    exact .side (.column hcolumn (isVariant_object "column" _)) (isMember_member "left" _)
  have hop : Expr.PresentsMember 124 inner (some .op)
      (member "op" "\"n\\u006ft\"".toList) := by
    have hunit : IsUnit "006f".toList 'o'.toNat :=
      .mk (x := 0) (y := 0) (z := 6) (w := 15) (by decide) (by decide) (by decide) (by decide)
    have hnot : IsName "not" "\"n\\u006ft\"".toList :=
      ⟨"n\\u006ft".toList, .raw (by decide) (.unit hunit (.raw (by decide) .nil)), Spaced.self _⟩
    exact .op (.bare hnot) (isMember_member "op" _)
  let members : List (Option NodeField × List Char) :=
    [(none, "\"\\u0078\":".toList ++ Json.list ["1e999".toList, "\"\\ud800\"".toList]),
      (some (.side .left), member "left" (object [member "column" "\"\\uD83D\\ude00\"".toList])),
      (some .op, member "op" "\"n\\u006ft\"".toList)]
  have hinner : inner.Presents 125 (object (members.map Prod.snd)) := by
    have hmembers : ∀ m ∈ members, Expr.PresentsMember 124 inner m.1 m.2 := by
      simp only [members, List.forall_mem_cons]
      exact ⟨hunknown, hleft, hop, fun _ hmember => absurd hmember List.not_mem_nil⟩
    have hsides : ∀ which, .side which ∈ members.filterMap Prod.fst ∨
        inner.side which = .absent := by
      intro which
      cases which with
      | left => exact .inl (by decide)
      | right => exact .inr rfl
    exact .object hmembers (by decide) (by decide) hsides (encloses_object _)
  have hand : Operator.and.Presents 126 (' ' :: object [member "and" "null".toList]) :=
    .content (Spaced.self _) ⟨_, isMember_member "and" _, [' ', '\x7b'], _, _,
      ⟨[' '], by decide, rfl⟩, .single _, Spaced.self _, rfl⟩
  have hcomma : Spaced [','] [' ', ','] := ⟨[' '], by decide, rfl⟩
  exact ⟨_, [' '], .listWithoutRight hand (.expr hinner (isVariant_object "expr" _)) rfl
    ⟨['['], _, [']'], Spaced.self _, .cons hcomma (.single _), Spaced.self _, rfl⟩, by decide,
    by decide +kernel⟩

theorem Expr.ofJson_of_presentedBy_respelled :
    (Expr.node .and (.expr (.node .not (.column ⟨"😀"⟩) .absent)) .absent).PresentedBy
      ("[ \x7b\"and\":null\x7d ,\x7b\"expr\":\x7b\"\\u0078\":[1e999,\"\\ud800\"]," ++
        "\"left\":\x7b\"column\":\"\\uD83D\\ude00\"\x7d,\"op\":\"n\\u006ft\"\x7d\x7d] ") ∧
    Expr.ofJson
      ("[ \x7b\"and\":null\x7d ,\x7b\"expr\":\x7b\"\\u0078\":[1e999,\"\\ud800\"]," ++
        "\"left\":\x7b\"column\":\"\\uD83D\\ude00\"\x7d,\"op\":\"n\\u006ft\"\x7d\x7d] ") =
      .ok (.node .and (.expr (.node .not (.column ⟨"😀"⟩) .absent)) .absent) :=
  ⟨Expr.presentedBy_respelled, Expr.ofJson_of_presentedBy Expr.presentedBy_respelled⟩

end SqlFilter
