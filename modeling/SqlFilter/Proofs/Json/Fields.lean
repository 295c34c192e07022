import SqlFilter.Proofs.Json.Acceptance
import SqlFilter.Proofs.Json.Written

set_option autoImplicit false

/-! # The fields of an object

An object for a node or a range boundary may have any members in any order. By their keys alone it
can be told what is made of them (`FieldRule`): a field that is repeated is refused at its key, a
field that is missing at the closing brace, and otherwise the object is the value whose fields the
members give. Both structures are read by the same loop. `Gathers` says what one member does to the
braces, and `Gathers.fieldRule` what the whole object comes to: the members in front of the first
repeated one are read in any order (`exists_chain_members`), and what is refused there is refused
whatever follows.
-/

namespace SqlFilter.Json

variable {ρ : Type}

/-! ## The rule of fields -/

/-- What an object comes to, by the fields that its members name, in their order. -/
structure FieldRule {Field : Type} (name : Field → String) (required fields : List Field)
    (fails : Misfit → Prop) (succeeds : Prop) : Prop where
  /-- the first field that has been named before is a duplicate -/
  repeated : ¬ fields.Nodup → ∃ before field after, fields = before ++ field :: after ∧
    before.Nodup ∧ field ∈ before ∧ fails (.duplicateField (name field))
  /-- without a duplicate, the first required field that is not named is missing -/
  missing : fields.Nodup → ∀ before field after, required = before ++ field :: after →
    (∀ other ∈ before, other ∈ fields) → field ∉ fields → fails (.missingField (name field))
  complete : fields.Nodup → (∀ field ∈ required, field ∈ fields) → succeeds

/-- Where fields are repeated, there is a first member that repeats one. -/
theorem exists_first_repeated {Member Field : Type} (field? : Member → Option Field)
    {members : List Member} (h : ¬ (members.filterMap field?).Nodup) :
    ∃ before m after field, members = before ++ m :: after ∧ field? m = some field ∧
      (before.filterMap field?).Nodup ∧ field ∈ before.filterMap field? := by
  induction members using List.reverseRecOn with
  | nil => exact absurd List.nodup_nil h
  | append_singleton start m ih =>
      by_cases hstart : (start.filterMap field?).Nodup
      · rw [List.filterMap_append] at h
        cases hfield : field? m with
        | none =>
            rw [List.filterMap_cons_none hfield, List.filterMap_nil, List.append_nil] at h
            exact absurd hstart h
        | some field =>
            rw [List.filterMap_cons_some hfield, List.filterMap_nil] at h
            have hmem : field ∈ start.filterMap field? := by
              by_contra hnew
              exact h (List.concat_eq_append ▸ hstart.concat hnew)
            exact ⟨start, m, [], field, rfl, hfield, hstart, hmem⟩
      · obtain ⟨before, first, after, field, rfl, hfirst⟩ := ih hstart
        exact ⟨before, first, after ++ [m], field, by simp, hfirst⟩

/-- How the members of an object are put together to a value. In the braces stands a bracket that
knows of the value the fields seen so far; `Fits` says that a value is the one of some members. -/
structure Gathers {Member Field Value : Type} (field? : Member → Option Field)
    (textOf : Member → List Char) (name : Field → String) (required : List Field) (slot : Slot ρ)
    (bracket : Value → List Field → Open ρ) (Fits : Value → List Member → Prop)
    (fill : Value → Stage ρ) : Prop where
  opened : ∀ value, slot.opened .object = .inside .first (bracket value [])
  form : ∀ value seen, (bracket value seen).form = .object
  exists_fits : ∀ members : List Member, (members.filterMap field?).Nodup →
    ∃ value, Fits value members
  /-- a field that has not been seen is taken, and so is a member without meaning -/
  takes : ∀ {value members}, Fits value members → ∀ m ∈ members, ∀ seen,
    (∀ field ∈ field? m, field ∉ seen) → ∀ phase, phase ≠ .after →
      Leads (.inside phase (bracket value seen)) (textOf m)
        (.inside .after (bracket value ((field? m).toList ++ seen)))
  /-- a field that has been seen is refused at its key -/
  refuses : ∀ value m field, field? m = some field → ∀ seen, field ∈ seen → ∀ phase,
    phase ≠ .after → Reads (.inside phase (bracket value seen)) (textOf m) none
      (.misfit (.duplicateField (name field)))
  /-- the closing brace asks for the required fields in their order -/
  misses : ∀ value seen before field after, required = before ++ field :: after →
    (∀ other ∈ before, other ∈ seen) → field ∉ seen →
      (bracket value seen).close = .misfit (.missingField (name field))
  completes : ∀ {value members seen}, Fits value members →
    (∀ field, field ∈ seen ↔ field ∈ members.filterMap field?) →
      (∀ field ∈ required, field ∈ seen) → (bracket value seen).close = fill value

section Gathers

variable {Member Field Value : Type} {field? : Member → Option Field}
  {textOf : Member → List Char} {name : Field → String} {required : List Field} {slot : Slot ρ}
  {bracket : Value → List Field → Open ρ} {Fits : Value → List Member → Prop}
  {fill : Value → Stage ρ}

/-- Without a repeated field, the object is read to its closing brace. -/
theorem Gathers.reads_close
    (h : Gathers field? textOf name required slot bracket Fits fill) {members : List Member}
    (hnodup : (members.filterMap field?).Nodup) {text : List Char}
    (htext : Encloses .object (members.map textOf) text) :
    ∃ value seen, Fits value members ∧ (∀ field, field ∈ seen ↔ field ∈ members.filterMap field?) ∧
      Reads (.expecting (.slot slot)) text none (bracket value seen).close := by
  obtain ⟨value, hfits⟩ := h.exists_fits members hnodup
  obtain ⟨seen, hchain, hseen⟩ := exists_chain_members field? textOf (bracket value)
    (h.takes hfits) hnodup
  have hform := h.form value seen
  have hread := reads_encloses (by rw [hform]; exact h.opened value) hchain (by rwa [hform])
  exact ⟨value, seen, hfits, hseen, hread⟩

/-- The first repeated field is refused at its key. -/
theorem Gathers.reads_repeated
    (h : Gathers field? textOf name required slot bracket Fits fill) {before after : List Member}
    {m : Member} {field : Field} (hfield : field? m = some field)
    (hnodup : (before.filterMap field?).Nodup) (hmem : field ∈ before.filterMap field?)
    {text : List Char} (htext : Encloses .object ((before ++ m :: after).map textOf) text) :
    Reads (.expecting (.slot slot)) text none (.misfit (.duplicateField (name field))) := by
  obtain ⟨value, hfits⟩ := h.exists_fits before hnodup
  obtain ⟨seen, hchain, hseen⟩ := exists_chain_members field? textOf (bracket value)
    (h.takes hfits) hnodup
  rw [List.map_append, List.map_cons] at htext
  exact reads_encloses_refused (h.opened value) hchain
    (h.refuses value m field hfield seen ((hseen field).mpr hmem)) htext

/-- What one member does to the braces decides what the whole object comes to. -/
theorem Gathers.fieldRule
    (h : Gathers field? textOf name required slot bracket Fits fill) (members : List Member)
    {text : List Char} (htext : Encloses .object (members.map textOf) text) :
    FieldRule name required (members.filterMap field?)
      (fun m => Reads (.expecting (.slot slot)) text none (.misfit m))
      (∃ value, Fits value members ∧
        Reads (.expecting (.slot slot)) text none (fill value)) := by
  constructor
  · intro hrepeated
    obtain ⟨before, m, after, field, rfl, hfield, hnodup, hmem⟩ :=
      exists_first_repeated field? hrepeated
    refine ⟨before.filterMap field?, field, after.filterMap field?, ?_, hnodup, hmem,
      h.reads_repeated hfield hnodup hmem htext⟩
    rw [List.filterMap_append, List.filterMap_cons_some hfield]
  · intro hnodup before field after hrequired hbefore hmissing
    obtain ⟨value, seen, -, hseen, hread⟩ := h.reads_close hnodup htext
    have hclose := h.misses value seen before field after hrequired
      (fun other hother => (hseen other).mpr (hbefore other hother))
      (fun hmem => hmissing ((hseen field).mp hmem))
    rwa [hclose] at hread
  · intro hnodup hall
    obtain ⟨value, seen, hfits, hseen, hread⟩ := h.reads_close hnodup htext
    have hclose := h.completes hfits hseen fun field hfield => (hseen field).mpr (hall field hfield)
    rw [hclose] at hread
    exact ⟨value, hfits, hread⟩

end Gathers

/-! ## Members with an entry -/

/-- A member of an object, with its entry if it has a meaning. -/
structure Member {Entry : Type} (IsMemberOf : Option Entry → List Char → Prop) where
  meaning? : Option Entry
  text : List Char
  isMember : IsMemberOf meaning? text

section Entries

variable {Entry Field Value : Type} {IsMemberOf : Option Entry → List Char → Prop}
  {field : Entry → Field}

/-- The entries of some members. -/
def entriesOf (members : List (Member IsMemberOf)) : List Entry :=
  members.filterMap Member.meaning?

/-- The field that a member names. -/
def Member.field? (field : Entry → Field) (m : Member IsMemberOf) : Option Field :=
  m.meaning?.map field

theorem mem_entriesOf {members : List (Member IsMemberOf)} {m : Member IsMemberOf}
    (hm : m ∈ members) {entry : Entry} (hentry : entry ∈ m.meaning?) : entry ∈ entriesOf members :=
  List.mem_filterMap.mpr ⟨m, hm, hentry⟩

theorem map_entriesOf (field : Entry → Field) (members : List (Member IsMemberOf)) :
    (entriesOf members).map field = members.filterMap (Member.field? field) :=
  List.map_filterMap

/-- Entries of different fields that are put into a value one after another all stay there. -/
theorem isOf_foldr_put {IsOf : Value → Entry → Prop} {put : Entry → Value → Value}
    (hput : ∀ value entry, IsOf (put entry value) entry)
    (hother : ∀ {value entry}, IsOf value entry → ∀ {other}, field entry ≠ field other →
      IsOf (put other value) entry)
    (start : Value) {entries : List Entry} (hnodup : (entries.map field).Nodup) :
    ∀ entry ∈ entries, IsOf (entries.foldr put start) entry := by
  induction entries with
  | nil => exact List.forall_mem_nil _
  | cons first rest ih =>
      rw [List.map_cons, List.nodup_cons] at hnodup
      refine List.forall_mem_cons.mpr ⟨hput _ first, fun entry hentry => ?_⟩
      refine hother (ih hnodup.2 entry hentry) fun heq => hnodup.1 ?_
      rw [← heq]
      exact List.mem_map_of_mem hentry

end Entries

/-! ## Nodes -/

/-- A field of a node with its value. -/
inductive NodeEntry where
  | op (value : Operator)
  | side (which : Side) (value : Operand)

namespace NodeEntry

/-- The field of an entry. -/
def field : NodeEntry → NodeField
  | .op _ => .op
  | .side which _ => .side which

/-- The draft with the entry. -/
def set (draft : NodeDraft) : NodeEntry → NodeDraft
  | .op value => draft.setOp value
  | .side which value => draft.setSide which value

/-- The node has the entry. -/
def IsOf (e : Expr) : NodeEntry → Prop
  | .op value => e.op = value
  | .side which value => e.side which = value

/-- The node with the entry in place of its own. -/
def put : NodeEntry → Expr → Expr
  | .op value, e => .node value e.left e.right
  | .side .left value, e => .node e.op value e.right
  | .side .right value, e => .node e.op e.left value

theorem isOf_put (e : Expr) (entry : NodeEntry) : IsOf (entry.put e) entry := by
  rcases entry with value | ⟨_ | _, value⟩ <;> rfl

theorem IsOf.put {e : Expr} {entry : NodeEntry} (h : IsOf e entry) {other : NodeEntry}
    (hne : entry.field ≠ other.field) : IsOf (other.put e) entry := by
  rcases entry with value | ⟨_ | _, value⟩ <;> rcases other with value' | ⟨_ | _, value'⟩
  all_goals first | exact h | exact absurd rfl hne

/-- A side that no entry gives stays as it is. -/
theorem side_foldr_put {e : Expr} {entries : List NodeEntry} {which : Side}
    (h : .side which ∉ entries.map field) : (entries.foldr put e).side which = e.side which := by
  induction entries with
  | nil => rfl
  | cons entry rest ih =>
      rw [List.map_cons, List.mem_cons, not_or] at h
      rw [List.foldr_cons, ← ih h.2]
      rcases entry with value | ⟨_ | _, value⟩ <;> cases which
      all_goals first | rfl | exact absurd rfl h.1

theorem set_draft {e : Expr} {entry : NodeEntry} (h : IsOf e entry) (seen : List NodeField) :
    entry.set (e.draft seen) = e.draft (entry.field :: seen) := by
  cases entry with
  | op value =>
      obtain rfl : e.op = value := h
      exact e.setOp_draft seen
  | side which value =>
      obtain rfl : e.side which = value := h
      exact e.setSide_draft seen which

/-- In the object of a node, the text is read as the value of the field, whatever other fields have
been read. -/
def IsReadable (hole : ExprHole ρ) (entry : NodeEntry) (text : List Char) : Prop :=
  ∀ draft, Leads (.expecting (entry.field.spot .object draft hole)) text
    (entry.field.filled .object (entry.set draft) hole)

end NodeEntry

/-- The text is a member of the object of a node: a field with a readable value, or any other key
with any value. -/
inductive IsNodeMember (hole : ExprHole ρ) : Option NodeEntry → List Char → Prop where
  | field {entry : NodeEntry} {value text : List Char} (hvalue : entry.IsReadable hole value)
      (htext : IsMember entry.field.name value text) : IsNodeMember hole (some entry) text
  | unknown {name : String} {value text : List Char} (hname : NodeField.ofName? name = none)
      (hvalue : IsJson value) (htext : IsMember name value text) : IsNodeMember hole none text

/-- The node has the fields that the members give, and a side that they do not give is absent. -/
structure FitsNode {hole : ExprHole ρ} (e : Expr) (members : List (Member (IsNodeMember hole))) :
    Prop where
  isOf : ∀ entry ∈ entriesOf members, NodeEntry.IsOf e entry
  absent : ∀ which, .side which ∉ members.filterMap (Member.field? NodeEntry.field) →
    e.side which = .absent

namespace IsNodeMember

variable {hole : ExprHole ρ} {meaning? : Option NodeEntry} {text : List Char}

theorem exists_fits (members : List (Member (IsNodeMember hole)))
    (hnodup : (members.filterMap (Member.field? NodeEntry.field)).Nodup) :
    ∃ e, FitsNode e members := by
  refine ⟨(entriesOf members).foldr NodeEntry.put (.node .and .absent .absent), ?_, ?_⟩
  · rw [← map_entriesOf] at hnodup
    exact isOf_foldr_put NodeEntry.isOf_put NodeEntry.IsOf.put _ hnodup
  · intro which hwhich
    rw [← map_entriesOf] at hwhich
    rw [NodeEntry.side_foldr_put hwhich]
    cases which <;> rfl

theorem leads {e : Expr} (h : IsNodeMember hole meaning? text)
    (hof : ∀ entry ∈ meaning?, NodeEntry.IsOf e entry) (seen : List NodeField)
    (hnew : ∀ field ∈ meaning?.map NodeEntry.field, field ∉ seen) (phase : Phase)
    (hphase : phase ≠ .after) :
    Leads (.inside phase (.node (e.draft seen) hole)) text
      (.inside .after (.node (e.draft ((meaning?.map NodeEntry.field).toList ++ seen)) hole)) := by
  cases h with
  | @field entry _ _ hvalue htext =>
      have hlead := hvalue (e.draft seen)
      rw [NodeEntry.set_draft (hof entry rfl)] at hlead
      exact Expr.leads_field hole seen (hnew _ rfl) htext hlead phase hphase
  | unknown hname hvalue htext =>
      exact Expr.leads_unknownMember hole seen hname hvalue htext phase hphase

theorem reads_repeated (e : Expr) (h : IsNodeMember hole meaning? text) {field : NodeField}
    (hfield : meaning?.map NodeEntry.field = some field) {seen : List NodeField}
    (hmem : field ∈ seen) (phase : Phase) (hphase : phase ≠ .after) :
    Reads (.inside phase (.node (e.draft seen) hole)) text none
      (.misfit (.duplicateField field.name)) := by
  cases h with
  | unknown => cases hfield
  | @field entry _ _ _ htext =>
      obtain rfl := Option.some.inj hfield
      have hkey : (TextUse.nodeKey (e.draft seen) hole).finish entry.field.name =
          .failed (.misfit (.duplicateField entry.field.name)) := by
        rw [TextUse.finish, NodeDraft.key, NodeField.ofName?_name]
        exact if_pos (e.has_draft_of_mem seen hmem)
      exact reads_refusedMember (.nodeKey (e.draft seen) hole) rfl (skipsSpace_inside _ _)
        (step_quote rfl hphase) hkey htext

/-- The braces of a node gather its fields. -/
theorem gathers (hdepth : hole.depth < nestingLimit) :
    Gathers (Member.field? NodeEntry.field : Member (IsNodeMember hole) → Option NodeField)
      Member.text NodeField.name [.op] (.node hole) (fun e seen => .node (e.draft seen) hole)
      FitsNode hole.fill where
  opened := fun _ => Stage.nested_of_lt hdepth _
  form := fun _ _ => rfl
  exists_fits := exists_fits
  takes := fun hfits m hm =>
    m.isMember.leads fun entry hentry => hfits.isOf entry (mem_entriesOf hm hentry)
  refuses := fun e m _ hfield _ hmem => m.isMember.reads_repeated e hfield hmem
  misses := by
    intro e seen before field after hrequired _ hmissing
    cases before with
    | nil =>
        obtain ⟨rfl, -⟩ := List.cons.inj hrequired
        rw [Open.close, e.expr?_draft_eq_none hmissing]
    | cons first rest => simp at hrequired
  completes := by
    intro e members seen hfits hseen hall
    have hsides : ∀ which, .side which ∈ seen ∨ e.side which = .absent := by
      intro which
      by_cases hmem : .side which ∈ seen
      · exact .inl hmem
      · exact .inr (hfits.absent which fun hgiven => hmem ((hseen _).mpr hgiven))
    rw [Open.close, e.expr?_draft (hall .op List.mem_cons_self) hsides]

end IsNodeMember

/-! ## Range boundaries -/

/-- A field of a range boundary with its value. -/
inductive BoundaryEntry where
  | bound (which : Bound) (value : String)
  | inclusive (value : Bool)

namespace BoundaryEntry

/-- The field of an entry. -/
def field : BoundaryEntry → BoundaryField
  | .bound which _ => .bound which
  | .inclusive _ => .inclusive

/-- The draft with the entry. -/
def set (draft : BoundaryDraft) : BoundaryEntry → BoundaryDraft
  | .bound which value => draft.setBound which value
  | .inclusive value => draft.setInclusive value

/-- The range boundary has the entry. -/
def IsOf (b : Boundary) : BoundaryEntry → Prop
  | .bound which value => b.bound which = value
  | .inclusive value => b.inclusive = value

/-- The range boundary with the entry in place of its own. -/
def put : BoundaryEntry → Boundary → Boundary
  | .bound .min value, b => { b with min := value }
  | .bound .max value, b => { b with max := value }
  | .inclusive value, b => { b with inclusive := value }

theorem isOf_put (b : Boundary) (entry : BoundaryEntry) : IsOf (entry.put b) entry := by
  rcases entry with ⟨_ | _, value⟩ | value <;> rfl

theorem IsOf.put {b : Boundary} {entry : BoundaryEntry} (h : IsOf b entry) {other : BoundaryEntry}
    (hne : entry.field ≠ other.field) : IsOf (other.put b) entry := by
  rcases entry with ⟨_ | _, value⟩ | value <;> rcases other with ⟨_ | _, value'⟩ | value'
  all_goals first | exact h | exact absurd rfl hne

theorem set_draft {b : Boundary} {entry : BoundaryEntry} (h : IsOf b entry)
    (seen : List BoundaryField) :
    entry.set (b.draft seen) = b.draft (entry.field :: seen) := by
  cases entry with
  | bound which value =>
      obtain rfl : b.bound which = value := h
      exact b.setBound_draft seen which
  | inclusive value =>
      obtain rfl : b.inclusive = value := h
      exact b.setInclusive_draft seen

/-- In the object of a range boundary, the text is read as the value of the field, whatever other
fields have been read. -/
def IsReadable (hole : BoundaryHole ρ) (entry : BoundaryEntry) (text : List Char) : Prop :=
  ∀ draft, Leads (.expecting (entry.field.spot .object draft hole)) text
    (entry.field.filled .object (entry.set draft) hole)

end BoundaryEntry

/-- The text is a member of the object of a range boundary: a field with a readable value, or any
other key with any value. -/
inductive IsBoundaryMember (hole : BoundaryHole ρ) : Option BoundaryEntry → List Char → Prop where
  | field {entry : BoundaryEntry} {value text : List Char} (hvalue : entry.IsReadable hole value)
      (htext : IsMember entry.field.name value text) : IsBoundaryMember hole (some entry) text
  | unknown {name : String} {value text : List Char} (hname : BoundaryField.ofName? name = none)
      (hvalue : IsJson value) (htext : IsMember name value text) : IsBoundaryMember hole none text

/-- The range boundary has the fields that the members give. -/
def FitsBoundary {hole : BoundaryHole ρ} (b : Boundary)
    (members : List (Member (IsBoundaryMember hole))) : Prop :=
  ∀ entry ∈ entriesOf members, BoundaryEntry.IsOf b entry

namespace IsBoundaryMember

variable {hole : BoundaryHole ρ} {meaning? : Option BoundaryEntry} {text : List Char}

theorem exists_fits (members : List (Member (IsBoundaryMember hole)))
    (hnodup : (members.filterMap (Member.field? BoundaryEntry.field)).Nodup) :
    ∃ b, FitsBoundary b members := by
  rw [← map_entriesOf] at hnodup
  exact ⟨(entriesOf members).foldr BoundaryEntry.put ⟨"", "", false⟩,
    isOf_foldr_put BoundaryEntry.isOf_put BoundaryEntry.IsOf.put _ hnodup⟩

theorem leads {b : Boundary} (h : IsBoundaryMember hole meaning? text)
    (hof : ∀ entry ∈ meaning?, BoundaryEntry.IsOf b entry) (seen : List BoundaryField)
    (hnew : ∀ field ∈ meaning?.map BoundaryEntry.field, field ∉ seen) (phase : Phase)
    (hphase : phase ≠ .after) :
    Leads (.inside phase (.boundary (b.draft seen) hole)) text (.inside .after
      (.boundary (b.draft ((meaning?.map BoundaryEntry.field).toList ++ seen)) hole)) := by
  cases h with
  | @field entry _ _ hvalue htext =>
      have hlead := hvalue (b.draft seen)
      rw [BoundaryEntry.set_draft (hof entry rfl)] at hlead
      exact Boundary.leads_field hole seen (hnew _ rfl) htext hlead phase hphase
  | unknown hname hvalue htext =>
      exact Boundary.leads_unknownMember hole seen hname hvalue htext phase hphase

theorem reads_repeated (b : Boundary) (h : IsBoundaryMember hole meaning? text)
    {field : BoundaryField} (hfield : meaning?.map BoundaryEntry.field = some field)
    {seen : List BoundaryField} (hmem : field ∈ seen) (phase : Phase) (hphase : phase ≠ .after) :
    Reads (.inside phase (.boundary (b.draft seen) hole)) text none
      (.misfit (.duplicateField field.name)) := by
  cases h with
  | unknown => cases hfield
  | @field entry _ _ _ htext =>
      obtain rfl := Option.some.inj hfield
      have hkey : (TextUse.boundaryKey (b.draft seen) hole).finish entry.field.name =
          .failed (.misfit (.duplicateField entry.field.name)) := by
        rw [TextUse.finish, BoundaryDraft.key, BoundaryField.ofName?_name]
        exact if_pos (b.has_draft_of_mem seen hmem)
      exact reads_refusedMember (.boundaryKey (b.draft seen) hole) rfl (skipsSpace_inside _ _)
        (step_quote rfl hphase) hkey htext

/-- The braces of a range boundary gather its fields. -/
theorem gathers (hdepth : hole.depth < nestingLimit) :
    Gathers
      (Member.field? BoundaryEntry.field : Member (IsBoundaryMember hole) → Option BoundaryField)
      Member.text BoundaryField.name [.bound .min, .bound .max, .inclusive] (.boundary hole)
      (fun b seen => .boundary (b.draft seen) hole) FitsBoundary hole.fill where
  opened := fun _ => Stage.nested_of_lt hdepth _
  form := fun _ _ => rfl
  exists_fits := exists_fits
  takes := fun hfits m hm =>
    m.isMember.leads fun entry hentry => hfits entry (mem_entriesOf hm hentry)
  refuses := fun b m _ hfield _ hmem => m.isMember.reads_repeated b hfield hmem
  misses := by
    intro b seen before field after hrequired hbefore hmissing
    obtain ⟨count, hmiss⟩ := b.exists_boundary?_draft hrequired hbefore hmissing
    rw [Open.close, hmiss]
  completes := by
    intro b members seen _ _ hall
    have hseen : ∀ field, field ∈ seen := by
      rintro (⟨_ | _⟩ | _)
      all_goals exact hall _ (by simp)
    rw [Open.close, b.boundary?_draft hseen]

end IsBoundaryMember

/-! ## Objects

What presents the value of a field is readable as its value, so there are such members. -/

theorem isReadable_op {op : Operator} {room : Nat} {text : List Char} (h : op.Presents room text)
    (hole : ExprHole ρ) (hroom : hole.depth + 1 + room ≤ nestingLimit) :
    (NodeEntry.op op).IsReadable hole text :=
  fun draft => (h.reads (.op .object draft hole) hroom).leads

theorem isReadable_side {operand : Operand} {room : Nat} {text : List Char}
    (h : operand.Presents room text) (which : Side) (hole : ExprHole ρ)
    (hroom : hole.depth + 1 + room ≤ nestingLimit) :
    (NodeEntry.side which operand).IsReadable hole text :=
  fun draft => (operand.isAccepted (.side which .object draft hole) room text h hroom).leads

theorem isReadable_bound {value : String} {text : List Char} (h : IsName value text)
    (which : Bound) (hole : BoundaryHole ρ) :
    (BoundaryEntry.bound which value).IsReadable hole text :=
  fun draft => (reads_text (.text (.bound which .object draft hole)) rfl h).leads

theorem isReadable_inclusive {value : Bool} {text : List Char} (h : IsFlag value text)
    (hole : BoundaryHole ρ) : (BoundaryEntry.inclusive value).IsReadable hole text :=
  fun draft => (reads_flag (.flag ⟨.object, draft, hole⟩) h).leads

/-- **The field discipline of objects.** In any place for a tree or a range boundary, an object with
any members in any order is refused at the first field that is repeated, else for the first required
field that is missing, and else read as the value of which its members give the fields, whatever
stands in members without meaning. -/
theorem reads_object_fields :
    (∀ (hole : ExprHole ρ) (members : List (Member (IsNodeMember hole))) (text : List Char),
      hole.depth < nestingLimit → Encloses .object (members.map Member.text) text →
        FieldRule NodeField.name [.op] (members.filterMap (Member.field? NodeEntry.field))
          (fun m => Reads (.expecting (.slot (.node hole))) text none (.misfit m))
          (∃ e, FitsNode e members ∧
            Reads (.expecting (.slot (.node hole))) text none (hole.fill e))) ∧
    (∀ (hole : BoundaryHole ρ) (members : List (Member (IsBoundaryMember hole)))
      (text : List Char),
      hole.depth < nestingLimit → Encloses .object (members.map Member.text) text →
        FieldRule BoundaryField.name [.bound .min, .bound .max, .inclusive]
          (members.filterMap (Member.field? BoundaryEntry.field))
          (fun m => Reads (.expecting (.slot (.boundary hole))) text none (.misfit m))
          (∃ b, FitsBoundary b members ∧
            Reads (.expecting (.slot (.boundary hole))) text none (hole.fill b))) :=
  ⟨fun _ members _ hdepth => (IsNodeMember.gathers hdepth).fieldRule members,
    fun _ members _ hdepth => (IsBoundaryMember.gathers hdepth).fieldRule members⟩

/-- An object without an operator is refused for a repeated side, and a range boundary for the field
that is missing, although a key without meaning is repeated. With its operator alone, a node has
absent sides. -/
theorem reads_object_fields_competing :
    Expr.ofJson "\x7b\"left\":\"absent\",\"x\":null,\"left\":\"absent\"\x7d" =
      .error (.misfit (.duplicateField "left")) ∧
    Boundary.ofJson "\x7b\"x\":null,\"max\":\"9\",\"x\":null,\"inclusive\":true\x7d" =
      .error (.misfit (.missingField "min")) ∧
    Expr.ofJson "\x7b\"x\":null,\"op\":\"not\"\x7d" = .ok (.node .not .absent .absent) := by
  have hnull : IsJson "null".toList := .word (by simp [words]) (Spaced.self _)
  let tree : ExprHole Expr := .document id
  let range : BoundaryHole Boundary := .document id
  refine ⟨?_, ?_, ?_⟩
  · have habsent : Operand.Presents 0 .absent (writeString "absent") :=
      .absent (isName_writeString "absent")
    have hleft := isReadable_side habsent .left tree (by decide)
    let left : Member (IsNodeMember tree) := ⟨_, _, .field hleft (isMember_member "left" _)⟩
    let unknown : Member (IsNodeMember tree) := ⟨_, _, .unknown rfl hnull (isMember_member "x" _)⟩
    have hrule := reads_object_fields.1 tree [left, unknown, left] _ (by decide) (encloses_object _)
    have hduplicate : ¬ [NodeField.side .left, .side .left].Nodup := by decide
    obtain ⟨before, field, after, hfields, -, -, hread⟩ := hrule.repeated hduplicate
    have hmem : field ∈ before ++ field :: after := by simp
    rw [← hfields] at hmem
    obtain rfl : field = .side .left :=
      List.eq_of_mem_replicate (show field ∈ List.replicate 2 (.side .left) from hmem)
    exact State.read_of_reads hread
  · have hmax := isReadable_bound (isName_writeString "9") .max range
    have hinclusive := isReadable_inclusive (isFlag_writeBool true) range
    let max : Member (IsBoundaryMember range) := ⟨_, _, .field hmax (isMember_member "max" _)⟩
    let inclusive : Member (IsBoundaryMember range) :=
      ⟨_, _, .field hinclusive (isMember_member "inclusive" _)⟩
    let unknown : Member (IsBoundaryMember range) :=
      ⟨_, _, .unknown rfl hnull (isMember_member "x" _)⟩
    have hrule := reads_object_fields.2 range [unknown, max, unknown, inclusive] _ (by decide)
      (encloses_object _)
    have hnodup : [BoundaryField.bound .max, .inclusive].Nodup := by decide
    have hmissing : BoundaryField.bound .min ∉ [BoundaryField.bound .max, .inclusive] := by decide
    have hread := hrule.missing hnodup [] _ _ rfl (List.forall_mem_nil _) hmissing
    exact State.read_of_reads hread
  · have hname : Operator.Presents 0 .not (writeString "not") := .bare (isName_writeString "not")
    have hop := isReadable_op hname tree (by decide)
    let op : Member (IsNodeMember tree) := ⟨_, _, .field hop (isMember_member "op" _)⟩
    let unknown : Member (IsNodeMember tree) := ⟨_, _, .unknown rfl hnull (isMember_member "x" _)⟩
    have hrule := reads_object_fields.1 tree [unknown, op] _ (by decide) (encloses_object _)
    have hnodup : [NodeField.op].Nodup := by decide
    obtain ⟨e, hfits, hread⟩ := hrule.complete hnodup (fun _ hrequired => hrequired)
    have hside : ∀ which, NodeField.side which ∉ [NodeField.op] := by simp
    obtain ⟨value, left, right⟩ := e
    obtain rfl : value = .not := hfits.isOf (.op .not) (mem_entriesOf (m := op) (by simp) rfl)
    obtain rfl : left = .absent := hfits.absent .left (hside .left)
    obtain rfl : right = .absent := hfits.absent .right (hside .right)
    exact State.read_of_reads hread

end SqlFilter.Json
