import SqlFilter.Proofs.Json.Skimming

set_option autoImplicit false

/-! # Parts of a tree in any of their texts

A structure that is being read is the draft of what it will be, with the fields seen so far
(`Expr.draft`, `Boundary.draft`), so the order of its members does not matter: `chain_members` reads
them one after another, and at the closing brace all of them have been seen. Operators, constants and
range boundaries are read from every text that presents them.
-/

namespace SqlFilter

open Json

variable {ρ : Type}

/-! ## Drafts of a structure -/

section NodeDraft

variable (e : Expr) (seen : List NodeField)

/-- The draft of a node of which the given fields have been read. -/
def Expr.draft : NodeDraft where
  op := if .op ∈ seen then some e.op else none
  left := if .side .left ∈ seen then some e.left else none
  right := if .side .right ∈ seen then some e.right else none

theorem Expr.has_draft {field : NodeField} (h : field ∉ seen) :
    (e.draft seen).has field = false := by
  rcases field with _ | which
  · simp [draft, NodeDraft.has, h]
  · cases which <;> simp [draft, NodeDraft.has, h]

theorem Expr.has_draft_of_mem {field : NodeField} (h : field ∈ seen) :
    (e.draft seen).has field = true := by
  rcases field with _ | which
  · simp [draft, NodeDraft.has, h]
  · cases which <;> simp [draft, NodeDraft.has, h]

theorem Expr.setOp_draft : (e.draft seen).setOp e.op = e.draft (.op :: seen) := by
  simp [draft, NodeDraft.setOp]

theorem Expr.setSide_draft (which : Side) :
    (e.draft seen).setSide which (e.side which) = e.draft (.side which :: seen) := by
  cases which <;> simp [draft, NodeDraft.setSide, side]

variable {seen}

/-- With its operator and the sides that are not absent, a draft is the node. -/
theorem Expr.expr?_draft (hop : .op ∈ seen)
    (hsides : ∀ which, .side which ∈ seen ∨ e.side which = .absent) :
    (e.draft seen).expr? = some e := by
  have hside : ∀ which,
      (if .side which ∈ seen then some (e.side which) else none).getD .absent = e.side which := by
    intro which
    by_cases hseen : .side which ∈ seen
    · rw [if_pos hseen, Option.getD_some]
    · rw [if_neg hseen, Option.getD_none]
      exact ((hsides which).resolve_left hseen).symm
  have hleft := hside .left
  have hright := hside .right
  rw [NodeDraft.expr?, draft, if_pos hop, Option.map_some]
  simp only [side] at hleft hright
  rw [hleft, hright, Expr.node_eta]

theorem Expr.expr?_draft_eq_none (hop : .op ∉ seen) : (e.draft seen).expr? = none := by
  rw [NodeDraft.expr?, draft, if_neg hop]
  rfl

end NodeDraft

section BoundaryDraft

variable (b : Boundary) (seen : List BoundaryField)

/-- The draft of a range boundary of which the given fields have been read. -/
def Boundary.draft : BoundaryDraft where
  min := if .bound .min ∈ seen then some b.min else none
  max := if .bound .max ∈ seen then some b.max else none
  inclusive := if .inclusive ∈ seen then some b.inclusive else none

theorem Boundary.has_draft {field : BoundaryField} (h : field ∉ seen) :
    (b.draft seen).has field = false := by
  rcases field with which | _
  · cases which <;> simp [draft, BoundaryDraft.has, h]
  · simp [draft, BoundaryDraft.has, h]

theorem Boundary.has_draft_of_mem {field : BoundaryField} (h : field ∈ seen) :
    (b.draft seen).has field = true := by
  rcases field with which | _
  · cases which <;> simp [draft, BoundaryDraft.has, h]
  · simp [draft, BoundaryDraft.has, h]

theorem Boundary.setBound_draft (which : Bound) :
    (b.draft seen).setBound which (b.bound which) = b.draft (.bound which :: seen) := by
  cases which <;> simp [draft, BoundaryDraft.setBound, bound]

theorem Boundary.setInclusive_draft :
    (b.draft seen).setInclusive b.inclusive = b.draft (.inclusive :: seen) := by
  simp [draft, BoundaryDraft.setInclusive]

variable {seen}

theorem Boundary.boundary?_draft (hall : ∀ field, field ∈ seen) :
    (b.draft seen).boundary? = .ok b := by
  rw [draft, if_pos (hall _), if_pos (hall _), if_pos (hall _)]
  rfl

/-- The first field that is missing is named. -/
theorem Boundary.exists_boundary?_draft {before after : List BoundaryField} {field : BoundaryField}
    (horder : [.bound .min, .bound .max, .inclusive] = before ++ field :: after)
    (hbefore : ∀ other ∈ before, other ∈ seen) (hmissing : field ∉ seen) :
    ∃ count, (b.draft seen).boundary? = .error (count, field) := by
  rcases before with _ | ⟨first, _ | ⟨second, _ | ⟨third, rest⟩⟩⟩
  · obtain ⟨rfl, -⟩ := List.cons.inj horder
    exact ⟨0, by rw [draft, if_neg hmissing]; rfl⟩
  · obtain ⟨rfl, htail⟩ := List.cons.inj horder
    obtain ⟨rfl, -⟩ := List.cons.inj htail
    have hmin := hbefore _ List.mem_cons_self
    exact ⟨1, by rw [draft, if_pos hmin, if_neg hmissing]; rfl⟩
  · obtain ⟨rfl, htail⟩ := List.cons.inj horder
    obtain ⟨rfl, hlast⟩ := List.cons.inj htail
    obtain ⟨rfl, -⟩ := List.cons.inj hlast
    have hmin := hbefore _ List.mem_cons_self
    have hmax := hbefore _ (List.mem_cons_of_mem _ List.mem_cons_self)
    exact ⟨2, by rw [draft, if_pos hmin, if_pos hmax, if_neg hmissing]; rfl⟩
  · simp at horder

end BoundaryDraft

namespace Json

/-! ## Members in any order -/

section Members

variable {Member Field : Type} (field? : Member → Option Field) (textOf : Member → List Char)
  (bracket : List Field → Open ρ) {members : List Member}

/-- Members in any order, each field at most once and members without meaning anywhere between
them, leave behind the fields that they name. -/
theorem chain_members
    (hmember : ∀ m ∈ members, ∀ seen, (∀ field ∈ field? m, field ∉ seen) → ∀ phase,
      phase ≠ .after → Leads (.inside phase (bracket seen)) (textOf m)
        (.inside .after (bracket ((field? m).toList ++ seen))))
    {seen : List Field} (hnodup : (members.filterMap field? ++ seen).Nodup) :
    Chain (bracket seen) (members.map textOf)
      (bracket ((members.filterMap field?).reverse ++ seen)) := by
  induction members generalizing seen with
  | nil => exact .nil (bracket seen)
  | cons m rest ih =>
      have hrest := @ih fun other hother => hmember other (List.mem_cons_of_mem m hother)
      have hfirst := hmember m List.mem_cons_self seen
      rw [List.map_cons]
      cases hfield : field? m with
      | none =>
          rw [List.filterMap_cons_none hfield] at hnodup ⊢
          rw [hfield] at hfirst
          exact .cons (hfirst (by simp)) (hrest hnodup)
      | some field =>
          rw [List.filterMap_cons_some hfield, List.cons_append] at hnodup
          rw [List.filterMap_cons_some hfield, List.reverse_cons, ← List.append_cons]
          rw [hfield] at hfirst
          have hnew : field ∉ seen :=
            fun hmem => (List.nodup_cons.mp hnodup).1 (List.mem_append_right _ hmem)
          exact .cons (hfirst (by simpa using hnew)) (hrest (List.nodup_middle.mpr hnodup))

/-- Behind the opening brace nothing has been seen, and before the closing one every member. -/
theorem exists_chain_members
    (hmember : ∀ m ∈ members, ∀ seen, (∀ field ∈ field? m, field ∉ seen) → ∀ phase,
      phase ≠ .after → Leads (.inside phase (bracket seen)) (textOf m)
        (.inside .after (bracket ((field? m).toList ++ seen))))
    (hnodup : (members.filterMap field?).Nodup) :
    ∃ seen, Chain (bracket []) (members.map textOf) (bracket seen) ∧
      ∀ field, field ∈ seen ↔ field ∈ members.filterMap field? := by
  have hstart : (members.filterMap field? ++ []).Nodup := by
    rw [List.append_nil]
    exact hnodup
  refine ⟨_, chain_members field? textOf bracket hmember hstart, fun field => ?_⟩
  rw [List.append_nil, List.mem_reverse]

end Members

/-! ## Words and strings -/

theorem reads_null {text : List Char} (hole : UnitHole ρ) (h : IsNull text) :
    Reads (.expecting (.slot (.unit hole))) text none hole.fill :=
  reads_spaced (skipsSpace_expecting _) h rfl

theorem reads_flag {text : List Char} (slot : Slot ρ) {value : Bool} (h : IsFlag value text) :
    Reads (.expecting (.slot slot)) text none (slot.accept (.scalar (.bool value))) := by
  cases value with
  | false => exact reads_spaced (skipsSpace_expecting _) h (run_writeBool slot false)
  | true => exact reads_spaced (skipsSpace_expecting _) h (run_writeBool slot true)

theorem reads_text {text : List Char} (slot : Slot ρ) (hslot : slot.isChecked = true)
    {value : String} (h : IsName value text) :
    Reads (.expecting (.slot slot)) text none (slot.accept (.scalar (.string value))) :=
  reads_name (.value slot) hslot (skipsSpace_expecting (.slot slot)) rfl h

end Json

/-! ## Operators and constants -/

theorem Operator.Presents.beginsItem {op : Operator} {room : Nat} {text : List Char}
    (h : op.Presents room text) : BeginsItem text := by
  cases h with
  | bare htext => exact htext.beginsItem
  | content _ htext => exact htext.beginsItem

theorem Operator.Presents.reads {op : Operator} {room : Nat} {text : List Char}
    (h : op.Presents room text) (hole : OperatorHole ρ) (hroom : hole.depth + room ≤ nestingLimit) :
    Reads (.expecting (.choice (.operator hole))) text none (hole.fill op) := by
  cases h with
  | bare htext =>
      have hread := reads_name (.bare (.operator hole)) rfl
        (skipsSpace_expecting (.choice (.operator hole))) rfl htext
      rw [TextUse.finish, Choice.bare, Operator.ofJsonName?_jsonName] at hread
      exact hread
  | content hvalue htext =>
      have hdepth : (Choice.operator hole).depth < nestingLimit := by
        show hole.depth < nestingLimit
        omega
      have hname : (Choice.operator hole).named op.jsonName =
          .colon (.slot (.unit (.operator op hole))) := by
        rw [Choice.named, Operator.ofJsonName?_jsonName]
      exact reads_variant hdepth hname htext (reads_null (.operator op hole) hvalue).leads

theorem Scalar.Presents.leads {s : Scalar} {text : List Char} (h : s.Presents text)
    (hole : ScalarHole ρ) : Leads (.expecting (.slot (.scalar hole))) text (hole.fill s) := by
  cases h with
  | bool htext => exact (reads_flag (.scalar hole) htext).leads
  | @number _ _ form hform htext =>
      have hnumber := leads_number (.scalar hole) form
      rw [Slot.acceptNumber, hform.scalar?] at hnumber
      exact leads_spaced (skipsSpace_expecting _) htext hnumber
  | string htext =>
      have hread := reads_text (.scalar hole) rfl htext
      exact hread.leads

/-! ## Range boundaries -/

section Boundary

variable {b : Boundary} (hole : BoundaryHole ρ) (seen : List BoundaryField) {text : List Char}

theorem Boundary.reads_boundText (which : Bound) (form : Form) (h : IsName (b.bound which) text) :
    Reads (.expecting ((BoundaryField.bound which).spot form (b.draft seen) hole)) text none
      ((BoundaryField.bound which).filled form (b.draft (.bound which :: seen)) hole) := by
  rw [← b.setBound_draft seen which]
  exact reads_text (.text (.bound which form (b.draft seen) hole)) rfl h

theorem Boundary.reads_inclusive (form : Form) (h : IsFlag b.inclusive text) :
    Reads (.expecting (BoundaryField.inclusive.spot form (b.draft seen) hole)) text none
      (BoundaryField.inclusive.filled form (b.draft (.inclusive :: seen)) hole) := by
  rw [← b.setInclusive_draft seen]
  exact reads_flag (.flag ⟨form, b.draft seen, hole⟩) h

/-- A field of a range boundary as a member, when it has not been seen yet. -/
theorem Boundary.leads_field {field : BoundaryField} (hnew : field ∉ seen) {value : List Char}
    (htext : IsMember field.name value text)
    (hvalue : Leads (.expecting (field.spot .object (b.draft seen) hole)) value
      (field.filled .object (b.draft (field :: seen)) hole)) (phase : Phase)
    (hphase : phase ≠ .after) :
    Leads (.inside phase (.boundary (b.draft seen) hole)) text
      (.inside .after (.boundary (b.draft (field :: seen)) hole)) :=
  leads_member (.boundaryKey (b.draft seen) hole) rfl (skipsSpace_inside _ _)
    (step_quote rfl hphase) (finish_boundaryKey field (b.has_draft seen hnew)) htext hvalue

/-- A member of a range boundary that has no meaning. -/
theorem Boundary.leads_unknownMember {name : String} (hname : BoundaryField.ofName? name = none)
    {value : List Char} (hvalue : IsJson value) (htext : IsMember name value text) (phase : Phase)
    (hphase : phase ≠ .after) :
    Leads (.inside phase (.boundary (b.draft seen) hole)) text
      (.inside .after (.boundary (b.draft seen) hole)) := by
  have hkey : (TextUse.boundaryKey (b.draft seen) hole).finish name =
      .colon (.slot (.passing [] (.boundary (b.draft seen) hole))) := by
    rw [TextUse.finish, BoundaryDraft.key, hname]
  exact leads_unknown rfl rfl rfl rfl hkey hvalue htext hphase

/-- A field of a range boundary as an item, when it is the next one. -/
theorem Boundary.leads_listItem {field : BoundaryField} (hbegins : BeginsItem text)
    (hvalue : Reads (.expecting (field.spot .array (b.draft seen) hole)) text none
      (field.filled .array (b.draft (field :: seen)) hole)) (phase : Phase)
    (hphase : phase ≠ .after) :
    Leads (.inside phase (.boundaryList (some field) (b.draft seen) hole)) text
      (.inside .after (.boundaryList field.next? (b.draft (field :: seen)) hole)) :=
  leads_item (.boundaryList (some field) (b.draft seen) hole) rfl rfl hbegins hvalue.leads phase
    hphase

theorem Boundary.leads_presentsMember {field? : Option BoundaryField}
    (h : b.PresentsMember field? text) (phase : Phase) (hphase : phase ≠ .after)
    (hnew : ∀ field ∈ field?, field ∉ seen) :
    Leads (.inside phase (.boundary (b.draft seen) hole)) text
      (.inside .after (.boundary (b.draft (field?.toList ++ seen)) hole)) := by
  cases h with
  | @bound which _ _ hvalue htext =>
      exact leads_field hole seen (hnew _ rfl) htext
        (reads_boundText hole seen which .object hvalue).leads phase hphase
  | inclusive hvalue htext =>
      exact leads_field hole seen (hnew _ rfl) htext
        (reads_inclusive hole seen .object hvalue).leads phase hphase
  | unknown hname hvalue htext =>
      exact leads_unknownMember hole seen hname hvalue htext phase hphase

theorem Boundary.Presents.reads {room : Nat} (h : b.Presents room text)
    (hroom : hole.depth + room ≤ nestingLimit) :
    Reads (.expecting (.slot (.boundary hole))) text none (hole.fill b) := by
  cases h with
  | @object room _ members _ hmembers hnodup hall htext =>
      have hopened : (Slot.boundary hole).opened .object =
          .inside .first (.boundary (b.draft []) hole) := Stage.nested_of_lt (by omega) _
      obtain ⟨seen, hchain, hseen⟩ := exists_chain_members Prod.fst Prod.snd
        (fun seen => Open.boundary (b.draft seen) hole)
        (fun m hm seen hnew phase hphase =>
          leads_presentsMember hole seen (hmembers m hm) phase hphase hnew) hnodup
      have hread := reads_encloses hopened hchain htext
      rw [Open.close, boundary?_draft b fun field => (hseen field).mpr (hall field)] at hread
      exact hread
  | list hmin hmax hinclusive htext =>
      have hopened : (Slot.boundary hole).opened .array =
          .inside .first (.boundaryList (some (.bound .min)) (b.draft []) hole) :=
        Stage.nested_of_lt (by omega) _
      have hfirst := leads_listItem hole [] hmin.beginsItem
        (reads_boundText hole [] .min .array hmin)
      have hsecond := leads_listItem hole [.bound .min] hmax.beginsItem
        (reads_boundText hole [.bound .min] .max .array hmax)
      have hlast := leads_listItem hole [.bound .max, .bound .min] hinclusive.beginsItem
        (reads_inclusive hole [.bound .max, .bound .min] .array hinclusive)
      have hread := reads_encloses hopened
        (.cons hfirst (.cons hsecond (.cons hlast (.nil _)))) htext
      rw [Open.close, boundary?_draft b (by rintro (⟨_ | _⟩ | _) <;> simp)] at hread
      exact hread

end Boundary

end SqlFilter
