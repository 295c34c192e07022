import SqlFilter.Proofs.Json.Canonical
import SqlFilter.Proofs.Json.Numerals
import SqlFilter.Proofs.Json.Presentation

set_option autoImplicit false

/-! # The written text is one of the texts

What the writer makes of a canonical tree presents the tree, if its doubles read back
(`Expr.presentedBy_toJson`). Part by part: the writer's strings spell, its constants are numbers and
words of the grammar, and its lists and objects are put together as the grammar has it.
-/

namespace SqlFilter.Json

theorem Spaced.self (token : List Char) : Spaced token token :=
  ⟨[], fun _ hc => absurd hc List.not_mem_nil, rfl⟩

/-! ## Strings -/

/-- The writer escapes a control either by a letter or by its number. -/
theorem escapeChar_control {n : Nat} (hn : n < 0x20) :
    (∃ letter, (letter, Char.ofNat n) ∈ shortEscapes ∧
      escapeChar (Char.ofNat n) = ['\\', letter]) ∨
    (∃ digits, IsUnit digits n ∧ escapeChar (Char.ofNat n) = '\\' :: 'u' :: digits) := by
  by_cases hshort : n ∈ [8, 9, 10, 12, 13]
  · left
    simp only [List.mem_cons, List.not_mem_nil, or_false] at hshort
    rcases hshort with rfl | rfl | rfl | rfl | rfl
    · exact ⟨'b', by decide, rfl⟩
    · exact ⟨'t', by decide, rfl⟩
    · exact ⟨'n', by decide, rfl⟩
    · exact ⟨'f', by decide, rfl⟩
    · exact ⟨'r', by decide, rfl⟩
  · right
    have htext : escapeChar (Char.ofNat n) =
        ['\\', 'u', '0', '0', hexDigit (n / 16), hexDigit (n % 16)] := by
      interval_cases n <;> first | rfl | exact absurd (by decide) hshort
    have hzero : IsHexDigit '0' 0 := ⟨by decide, .inl rfl⟩
    have hfirst : IsHexDigit (hexDigit (n / 16)) (n / 16) := ⟨by omega, .inl rfl⟩
    have hsecond : IsHexDigit (hexDigit (n % 16)) (n % 16) := ⟨by omega, .inl rfl⟩
    have hvalue : 0x1000 * 0 + 0x100 * 0 + 0x10 * (n / 16) + n % 16 = n := by
      omega
    have hunit := IsUnit.mk hzero hzero hfirst hsecond
    rw [hvalue] at hunit
    exact ⟨_, hunit, htext⟩

theorem Spells.escapeChar {chars text : List Char} (c : Char) (h : Spells chars text) :
    Spells (c :: chars) (Json.escapeChar c ++ text) := by
  rcases escapeChar_cases c with ⟨n, hn, rfl⟩ | rfl | rfl | ⟨htext, hcontrol, hquote, hbackslash⟩
  · rcases escapeChar_control hn with ⟨letter, hletter, htext⟩ | ⟨digits, hdigits, htext⟩
    · rw [htext]
      exact .short hletter h
    · have hvalue : (Char.ofNat n).toNat = n := by
        interval_cases n <;> rfl
      rw [← hvalue] at hdigits
      rw [htext]
      exact .unit hdigits h
  · exact .short (by decide) h
  · exact .short (by decide) h
  · rw [htext]
    exact .raw ⟨hcontrol, hquote, hbackslash⟩ h

theorem isName_writeString (s : String) : IsName s (writeString s) := by
  have hspells : ∀ chars : List Char, Spells chars (chars.flatMap escapeChar) := by
    intro chars
    induction chars with
    | nil => exact .nil
    | cons c chars ih =>
        rw [List.flatMap_cons]
        exact ih.escapeChar c
  exact ⟨s.toList.flatMap escapeChar, hspells s.toList, Spaced.self _⟩

/-! ## Words, lists and objects -/

theorem isFlag_writeBool (value : Bool) : IsFlag value (writeBool value) :=
  Spaced.self _

theorem Commas.of_commas (items : List (List Char)) : Commas items (commas items) := by
  induction items with
  | nil => exact .nil
  | cons item rest ih =>
      cases rest with
      | nil => exact .single item
      | cons second rest => exact .cons (Spaced.self [',']) ih

theorem encloses_object (members : List (List Char)) : Encloses .object members (object members) :=
  ⟨_, _, _, Spaced.self _, .of_commas members, Spaced.self _, rfl⟩

theorem encloses_list (items : List (List Char)) : Encloses .array items (list items) :=
  ⟨_, _, _, Spaced.self _, .of_commas items, Spaced.self _, rfl⟩

theorem isMember_member (name : String) (value : List Char) :
    IsMember name value (member name value) :=
  ⟨_, _, isName_writeString name, Spaced.self _, rfl⟩

theorem isVariant_object (name : String) (value : List Char) :
    IsVariant name value (object [member name value]) :=
  ⟨_, isMember_member name value, encloses_object _⟩

end SqlFilter.Json

namespace SqlFilter

open Json

/-! ## Constants and range boundaries -/

theorem Scalar.presents_of_isNumberText {s : Scalar} {text : List Char} (h : IsNumberText text s) :
    s.Presents text := by
  obtain ⟨form, hform, rfl⟩ := isNumberText_iff.mp h
  exact .number hform (Spaced.self form.text)

theorem Scalar.presents_writeJson {s : Scalar} (h : s.IsCanonical)
    (hfloats : ∀ x, s = .float x → x.ReadsBack) : s.Presents s.writeJson := by
  cases s with
  | bool value => exact .bool (isFlag_writeBool value)
  | int value => exact presents_of_isNumberText (isNumberText_int value)
  | uint value =>
      have hlarge : ¬ value.toNat < 2 ^ 63 := Nat.not_lt.mpr h
      have hread := isNumberText_uint value
      rw [if_neg hlarge] at hread
      exact presents_of_isNumberText hread
  | float value =>
      cases value with
      | nan => cases h
      | infinite negative => cases h
      | finite negative x => exact presents_of_isNumberText (hfloats _ rfl _ rfl)
  | string value => exact .string (isName_writeString value)

/-- Every one of some constants is presented by what is written of it. -/
def AllPresented (scalars : List Scalar) : Prop :=
  ∀ s ∈ scalars, s.Presents s.writeJson

theorem allPresented_append {first second : List Scalar} :
    AllPresented (first ++ second) ↔ AllPresented first ∧ AllPresented second :=
  List.forall_mem_append

theorem Expr.allPresented_of_allCanonical {e : Expr} (h : AllCanonical e.scalars)
    (hfloats : AllReadBack e.floats) : AllPresented e.scalars := by
  intro s hs
  refine Scalar.presents_writeJson (h s hs) ?_
  rintro x rfl
  exact hfloats x (Expr.mem_floats.mpr hs)

theorem Boundary.presents_writeJson (room : Nat) (b : Boundary) :
    b.Presents (room + 1) b.writeJson := by
  have hmin : b.PresentsMember (some (.bound .min)) (member "min" (writeString b.min)) :=
    .bound (isName_writeString b.min) (isMember_member "min" _)
  have hmax : b.PresentsMember (some (.bound .max)) (member "max" (writeString b.max)) :=
    .bound (isName_writeString b.max) (isMember_member "max" _)
  have hinclusive : b.PresentsMember (some .inclusive)
      (member "inclusive" (writeBool b.inclusive)) :=
    .inclusive (isFlag_writeBool b.inclusive) (isMember_member "inclusive" _)
  let members : List (Option BoundaryField × List Char) :=
    [(some (.bound .min), member "min" (writeString b.min)),
      (some (.bound .max), member "max" (writeString b.max)),
      (some .inclusive, member "inclusive" (writeBool b.inclusive))]
  have hmembers : ∀ m ∈ members, b.PresentsMember m.1 m.2 := by
    simp only [members, List.forall_mem_cons]
    exact ⟨hmin, hmax, hinclusive, fun _ hmember => absurd hmember List.not_mem_nil⟩
  have hall : ∀ field, field ∈ members.filterMap Prod.fst := by
    rintro (which | _)
    · cases which <;> simp [members]
    · simp [members]
  exact .object hmembers (by simp [members]) hall (encloses_object (members.map Prod.snd))

/-! ## Trees -/

/-- The member of a side with its field; an absent side has none. -/
def Operand.sideMembers (which : Side) (operand : Operand) :
    List (Option NodeField × List Char) :=
  if operand.isAbsent then []
  else [(some (.side which), member (NodeField.side which).name operand.writeJson)]

theorem Operand.map_snd_sideMembers (which : Side) (operand : Operand) :
    (operand.sideMembers which).map Prod.snd =
      sideMember (NodeField.side which).name operand operand.writeJson := by
  rw [sideMembers, sideMember]
  split
  · rfl
  · rfl

theorem Operand.filterMap_fst_sideMembers (which : Side) (operand : Operand) :
    (operand.sideMembers which).filterMap Prod.fst =
      if operand.isAbsent then [] else [.side which] := by
  rw [sideMembers]
  split
  · rfl
  · rfl

theorem Operand.eq_absent {operand : Operand} (h : operand.isAbsent = true) :
    operand = .absent := by
  cases operand <;> first | rfl | cases h

section Node

variable {room : Nat} {e : Expr}

theorem Expr.presentsMember_of_mem_sideMembers {which : Side}
    (h : Operand.Presents room (e.side which) (e.side which).writeJson)
    {m : Option NodeField × List Char} (hm : m ∈ (e.side which).sideMembers which) :
    Expr.PresentsMember room e m.1 m.2 := by
  rw [Operand.sideMembers] at hm
  split at hm
  · exact absurd hm List.not_mem_nil
  · obtain rfl := List.mem_singleton.mp hm
    exact .side h (isMember_member _ _)

/-- A node is presented by its text if its sides are by theirs. -/
theorem Expr.presents_of_sides
    (h : ∀ which, Operand.Presents room (e.side which) (e.side which).writeJson) :
    e.Presents (room + 1) e.writeJson := by
  let members : List (Option NodeField × List Char) :=
    (some .op, member "op" e.op.writeJson) ::
      ((e.side .left).sideMembers .left ++ (e.side .right).sideMembers .right)
  have hcons : members.filterMap Prod.fst =
      .op :: ((e.side .left).sideMembers .left ++
        (e.side .right).sideMembers .right).filterMap Prod.fst := rfl
  have hfields : members.filterMap Prod.fst =
      .op :: ((if (e.side .left).isAbsent then [] else [.side .left]) ++
        (if (e.side .right).isAbsent then [] else [.side .right])) := by
    rw [hcons, List.filterMap_append, Operand.filterMap_fst_sideMembers,
      Operand.filterMap_fst_sideMembers]
  have hmembers : ∀ m ∈ members, Expr.PresentsMember room e m.1 m.2 := by
    intro m hm
    rcases List.mem_cons.mp hm with rfl | hm
    · exact .op (.bare (isName_writeString _)) (isMember_member "op" _)
    · rcases List.mem_append.mp hm with hm | hm
      · exact presentsMember_of_mem_sideMembers (h .left) hm
      · exact presentsMember_of_mem_sideMembers (h .right) hm
  have hnodup : (members.filterMap Prod.fst).Nodup := by
    rw [hfields]
    split <;> split <;> decide
  have hsides : ∀ which, .side which ∈ members.filterMap Prod.fst ∨ e.side which = .absent := by
    intro which
    by_cases habsent : (e.side which).isAbsent = true
    · exact .inr (Operand.eq_absent habsent)
    · left
      rw [hfields]
      cases which with
      | left => simp [habsent]
      | right => simp [habsent]
  have htext : e.writeJson = object (members.map Prod.snd) := by
    rw [List.map_cons, List.map_append, Operand.map_snd_sideMembers,
      Operand.map_snd_sideMembers]
    cases e with
    | node op left right =>
        rw [writeJson]
        rfl
  rw [htext]
  exact .object hmembers hnodup (by rw [hfields]; exact List.mem_cons_self) hsides
    (encloses_object _)

end Node

mutual

/-- What is written of a tree presents the tree, if this holds of its constants. -/
theorem Expr.presents_writeJson (e : Expr) {room : Nat} (hscalars : AllPresented e.scalars)
    (hroom : e.nesting ≤ room) : e.Presents room e.writeJson := by
  cases e with
  | node op left right =>
      rw [Expr.scalars, allPresented_append] at hscalars
      rw [Expr.nesting] at hroom
      obtain ⟨inner, rfl⟩ : ∃ inner, room = inner + 1 := ⟨room - 1, by omega⟩
      refine Expr.presents_of_sides fun which => ?_
      cases which with
      | left => exact left.presents_writeJson hscalars.1 (by omega)
      | right => exact right.presents_writeJson hscalars.2 (by omega)

/-- What is written of an operand presents the operand, if this holds of its constants. -/
theorem Operand.presents_writeJson (operand : Operand) {room : Nat}
    (hscalars : AllPresented operand.scalars) (hroom : operand.nesting ≤ room) :
    Operand.Presents room operand operand.writeJson := by
  cases operand with
  | absent => exact .absent (isName_writeString "absent")
  | expr tree =>
      rw [Operand.nesting] at hroom
      obtain ⟨inner, rfl⟩ : ∃ inner, room = inner + 1 := ⟨room - 1, by omega⟩
      exact .expr (tree.presents_writeJson hscalars (by omega)) (isVariant_object "expr" _)
  | list items =>
      rw [Operand.nesting] at hroom
      obtain ⟨inner, rfl⟩ : ∃ inner, room = inner + 2 := ⟨room - 2, by omega⟩
      exact .list (Expr.presentsAll_writeAllJson items hscalars (by omega)) (encloses_list _)
        (isVariant_object "list" _)
  | range boundary =>
      rw [Operand.nesting] at hroom
      obtain ⟨inner, rfl⟩ : ∃ inner, room = inner + 2 := ⟨room - 2, by omega⟩
      exact .range (boundary.presents_writeJson inner) (isVariant_object "range" _)
  | column column =>
      rw [Operand.nesting] at hroom
      obtain ⟨inner, rfl⟩ : ∃ inner, room = inner + 1 := ⟨room - 1, by omega⟩
      exact .column (isName_writeString column.name) (isVariant_object "column" _)
  | value scalar =>
      rw [Operand.nesting] at hroom
      obtain ⟨inner, rfl⟩ : ∃ inner, room = inner + 1 := ⟨room - 1, by omega⟩
      exact .value (hscalars scalar List.mem_cons_self) (isVariant_object "value" _)

theorem Expr.presentsAll_writeAllJson (items : List Expr) {room : Nat}
    (hscalars : AllPresented (Expr.scalarsAll items)) (hroom : Expr.nestings items ≤ room) :
    Expr.PresentsAll room items (Expr.writeAllJson items) := by
  cases items with
  | nil => exact .nil
  | cons item rest =>
      rw [Expr.scalarsAll, allPresented_append] at hscalars
      rw [Expr.nestings] at hroom
      exact .cons (item.presents_writeJson hscalars.1 (by omega))
        (Expr.presentsAll_writeAllJson rest hscalars.2 (by omega))

end

/-- The document of a canonical tree presents it, if its doubles read back and its nesting stays
within the limit. -/
theorem Expr.presentedBy_toJson {e : Expr} (h : e.Fits 0) (hfloats : AllReadBack e.floats) :
    e.PresentedBy e.toJson := by
  have hnesting := h.nesting_le
  have hscalars := Expr.allPresented_of_allCanonical h.canonical hfloats
  refine ⟨e.writeJson, [], e.presents_writeJson hscalars (by omega), by decide, ?_⟩
  rw [toJson, String.toList_ofList, List.append_nil]

end SqlFilter
