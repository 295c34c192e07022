import SqlFilter.Proofs.Sql.RangeText

set_option autoImplicit false

/-! # Which texts are boundaries

The rule of ranges takes whatever text stands on its right. `Boundary.Writes` is the grammar of the
texts that it accepts: two bounds with the separator between them, in brackets of one kind.
`Boundary.ofText?_eq_some_iff` says that a text is read exactly when it is one of these, and
`Writes.unique` that it is one in one way only, because the separator stands in it only once.

A boundary can also be read by byte offsets, as `Boundary.scan` does: the first and the last
character tell the brackets, the bytes between the first and the last one are what they enclose, and
the separators are counted before the text is cut at one. Two of these steps could fail on their
own, and never do (`Boundary.scan_eq`): a bracket is one byte long, so the offsets next to it stand
between characters, and a text in which a separator has been counted is cut at it.
-/

namespace SqlFilter

namespace Boundary

/-! ## The grammar -/

/-- A text that can be a bound: it does not hold the separator, and it is not blank. -/
def IsBound (bound : String) : Prop :=
  ¬ HasSeparator bound.toList ∧ Text.trim bound.toList ≠ []

/-- The text writes the boundary: two bounds with the separator between them, in brackets of its
kind. -/
structure Writes (b : Boundary) (text : String) : Prop where
  text_eq : text =
    if b.inclusive then "[" ++ b.min ++ ", " ++ b.max ++ "]"
    else "(" ++ b.min ++ ", " ++ b.max ++ ")"
  min_isBound : IsBound b.min
  max_isBound : IsBound b.max

theorem writes_iff {b : Boundary} {text : String} :
    b.Writes text ↔ text = b.text ∧ ¬ b.IsMalformed := by
  rw [IsMalformed, not_or, not_or, not_or]
  constructor
  · rintro ⟨rfl, hmin, hmax⟩
    exact ⟨rfl, hmin.1, hmax.1, hmin.2, hmax.2⟩
  · rintro ⟨rfl, hmin, hmax, hlow, hhigh⟩
    exact ⟨rfl, ⟨hmin, hlow⟩, ⟨hmax, hhigh⟩⟩

/-! ## Brackets -/

/-- The bracket in front of the bounds. -/
def opening (inclusive : Bool) : Char :=
  if inclusive then '[' else '('

/-- The bracket behind the bounds. -/
def closing (inclusive : Bool) : Char :=
  if inclusive then ']' else ')'

theorem toList_text (b : Boundary) :
    b.text.toList = opening b.inclusive ::
      ((b.min.toList ++ ',' :: ' ' :: b.max.toList) ++ [closing b.inclusive]) := by
  obtain ⟨min, max, inclusive⟩ := b
  cases inclusive <;> simp [text, opening, closing]

theorem between?_eq_some_iff {opening closing : Char} {text inner : List Char} :
    between? opening closing text = some inner ↔ text = opening :: (inner ++ [closing]) := by
  constructor
  · intro h
    cases text with
    | nil => cases h
    | cons first rest =>
        rw [between?] at h
        split at h
        · next hbrackets =>
            obtain ⟨rfl, hlast⟩ := hbrackets
            obtain ⟨front, rfl⟩ := List.getLast?_eq_some_iff.mp hlast
            rw [List.dropLast_concat] at h
            rw [Option.some.inj h]
        · cases h
  · rintro rfl
    exact between?_append inner

/-- A text in brackets of one kind is read by what they enclose, and no other text is read. -/
theorem ofText?_cases (text : String) :
    (∃ inclusive inner, text.toList = opening inclusive :: (inner ++ [closing inclusive]) ∧
      ofText? text = inside? inclusive inner) ∨
    ((∀ inclusive inner, text.toList ≠ opening inclusive :: (inner ++ [closing inclusive])) ∧
      ofText? text = none) := by
  rw [ofText?]
  cases hsquare : between? '[' ']' text.toList with
  | some inner => exact .inl ⟨true, inner, between?_eq_some_iff.mp hsquare, rfl⟩
  | none =>
      cases hround : between? '(' ')' text.toList with
      | some inner => exact .inl ⟨false, inner, between?_eq_some_iff.mp hround, rfl⟩
      | none =>
          refine .inr ⟨fun inclusive inner htext => ?_, rfl⟩
          have hbetween := between?_eq_some_iff.mpr htext
          cases inclusive with
          | true => exact absurd (hsquare.symm.trans hbetween) (by simp)
          | false => exact absurd (hround.symm.trans hbetween) (by simp)

/-! ## Reading accepts the grammar -/

/-- What the brackets enclose is read by its two parts around the only separator. -/
theorem inside?_eq_some_iff {inclusive : Bool} {inner : List Char} {b : Boundary} :
    inside? inclusive inner = some b ↔
      ∃ min max, inner = min ++ ',' :: ' ' :: max ∧ IsBound (String.ofList min) ∧
        IsBound (String.ofList max) ∧
        b = (⟨String.ofList min, String.ofList max, inclusive⟩ : Boundary).trimmed := by
  simp only [IsBound, trimmed, String.toList_ofList]
  rw [inside?]
  constructor
  · intro h
    obtain ⟨⟨min, max⟩, hbounds, hrest⟩ := Option.bind_eq_some_iff.mp h
    obtain ⟨hinner, hmin, hmax⟩ := bounds?_eq_some_iff.mp hbounds
    dsimp only at hrest
    split at hrest
    · cases hrest
    · next hblank =>
        rw [Bool.or_eq_true, List.isEmpty_iff, List.isEmpty_iff, not_or] at hblank
        exact ⟨min, max, hinner, ⟨hmin, hblank.1⟩, ⟨hmax, hblank.2⟩, (Option.some.inj hrest).symm⟩
  · rintro ⟨min, max, rfl, ⟨hmin, hlow⟩, ⟨hmax, hhigh⟩, rfl⟩
    rw [bounds?_eq_some_iff.mpr ⟨rfl, hmin, hmax⟩]
    simp [hlow, hhigh]

/-- A text is read exactly when it writes a boundary, and what is read is that boundary with its
bounds trimmed. -/
theorem ofText?_eq_some_iff {text : String} {read : Boundary} :
    ofText? text = some read ↔ ∃ b : Boundary, b.Writes text ∧ read = b.trimmed := by
  constructor
  · intro h
    rcases ofText?_cases text with ⟨inclusive, inner, htext, hread⟩ | ⟨-, hnone⟩
    · rw [hread] at h
      obtain ⟨min, max, rfl, hmin, hmax, rfl⟩ := inside?_eq_some_iff.mp h
      refine ⟨⟨String.ofList min, String.ofList max, inclusive⟩, ⟨?_, hmin, hmax⟩, rfl⟩
      show text = Boundary.text _
      rw [← String.toList_inj, toList_text, htext]
      simp
    · rw [hnone] at h
      cases h
  · rintro ⟨b, hb, rfl⟩
    obtain ⟨rfl, hwell⟩ := writes_iff.mp hb
    exact ofText?_text_of_not_isMalformed hwell

theorem opening_injective {inclusive inclusive' : Bool}
    (h : opening inclusive = opening inclusive') : inclusive = inclusive' := by
  revert h
  cases inclusive <;> cases inclusive' <;> decide

/-- A text writes one boundary at most. -/
theorem Writes.unique {b b' : Boundary} {text : String} (h : b.Writes text) (h' : b'.Writes text) :
    b = b' := by
  obtain ⟨htext, -⟩ := writes_iff.mp h
  obtain ⟨htext', -⟩ := writes_iff.mp h'
  have hlist : b.text.toList = b'.text.toList := by rw [← htext, ← htext']
  rw [toList_text, toList_text] at hlist
  obtain ⟨hopening, hrest⟩ := List.cons.inj hlist
  have hinclusive := opening_injective hopening
  rw [hinclusive] at hrest
  -- the two pairs of bounds are the bounds of one text
  have hinner : b.min.toList ++ ',' :: ' ' :: b.max.toList =
      b'.min.toList ++ ',' :: ' ' :: b'.max.toList := List.append_cancel_right hrest
  have hbounds := bounds?_eq_some_iff.mpr ⟨rfl, h.min_isBound.1, h.max_isBound.1⟩
  rw [hinner, bounds?_eq_some_iff.mpr ⟨rfl, h'.min_isBound.1, h'.max_isBound.1⟩] at hbounds
  obtain ⟨hmin, hmax⟩ := Prod.mk.inj (Option.some.inj hbounds)
  obtain ⟨min, max, inclusive⟩ := b
  obtain ⟨min', max', inclusive'⟩ := b'
  obtain rfl : min' = min := String.toList_inj.mp hmin
  obtain rfl : max' = max := String.toList_inj.mp hmax
  obtain rfl : inclusive = inclusive' := hinclusive
  rfl

/-! ## Reading by byte offsets -/

/-- The text from one byte offset to another. There is none where the offsets are out of order, or
where one of them lies outside the text or within a character. -/
def bytesBetween? (text : String) (first last : Nat) : Option String :=
  if h : first ≤ last ∧ String.Pos.Raw.IsValid text ⟨first⟩ ∧
      String.Pos.Raw.IsValid text ⟨last⟩ then
    some (text.extract (text.pos ⟨first⟩ h.2.1) (text.pos ⟨last⟩ h.2.2))
  else
    none

/-- The kind of the brackets that a text stands in, by its first and its last character. -/
def brackets? (text : List Char) : Option Bool :=
  match text.head?, text.getLast? with
  | some '[', some ']' => some true
  | some '(', some ')' => some false
  | _, _ => none

/-- The number of separators in a text, none of them overlapping the one before. -/
def separators : List Char → Nat
  | [] => 0
  | ',' :: ' ' :: rest => separators rest + 1
  | _ :: rest => separators rest

/-- How reading by byte offsets can end without a boundary. -/
inductive Stop where
  /-- the text is not that of a boundary -/
  | malformed
  /-- a byte offset does not stand between two characters -/
  | offset
  /-- there is no separator to cut the text at, although one has been counted -/
  | uncut
  deriving DecidableEq, Repr

/-- The boundary that a text writes, its bounds trimmed, with the brackets taken off by their byte
offsets. -/
def scan (text : String) : Except Stop Boundary :=
  match brackets? text.toList with
  | none => .error .malformed
  | some inclusive =>
    match bytesBetween? text 1 (text.utf8ByteSize - 1) with
    | none => .error .offset
    | some inner =>
      if separators inner.toList = 1 then
        match cut? inner.toList with
        | none => .error .uncut
        | some (min, max) =>
          if (Text.trim min).isEmpty || (Text.trim max).isEmpty then
            .error .malformed
          else
            .ok ⟨String.ofList (Text.trim min), String.ofList (Text.trim max), inclusive⟩
      else
        .error .malformed

/-- The bytes behind one part of a text and in front of another are the part between. -/
theorem bytesBetween?_append (before part after : String) :
    bytesBetween? (before ++ part ++ after) before.utf8ByteSize
      (before.utf8ByteSize + part.utf8ByteSize) = some part := by
  have hfirst : String.Pos.Raw.IsValid (before ++ part ++ after) ⟨before.utf8ByteSize⟩ :=
    String.Pos.Raw.isValid_iff_exists_append.mpr
      ⟨before, part ++ after, String.append_assoc, rfl⟩
  have hlast : String.Pos.Raw.IsValid (before ++ part ++ after)
      ⟨before.utf8ByteSize + part.utf8ByteSize⟩ :=
    String.Pos.Raw.isValid_iff_exists_append.mpr
      ⟨before ++ part, after, rfl, by simp [String.Pos.Raw.ext_iff]⟩
  rw [bytesBetween?, dif_pos ⟨Nat.le_add_right _ _, hfirst, hlast⟩]
  congr 1
  have hbytes : (before ++ part ++ after).toByteArray =
      before.toByteArray ++ (part.toByteArray ++ after.toByteArray) := by
    rw [String.append_assoc, String.toByteArray_append, String.toByteArray_append]
  have hbehind := ByteArray.extract_append_size_add' (i := 0) (j := part.utf8ByteSize)
    (b := part.toByteArray ++ after.toByteArray) before.size_toByteArray.symm
  rw [Nat.add_zero, ByteArray.extract_append_eq_left part.size_toByteArray.symm] at hbehind
  rw [← String.toByteArray_inj, String.toByteArray_extract, hbytes, String.offset_pos,
    String.offset_pos, hbehind]

theorem closing_ne_opening (inclusive : Bool) : closing inclusive ≠ opening inclusive := by
  cases inclusive <;> decide

theorem brackets?_eq_some_iff {text : List Char} {inclusive : Bool} :
    brackets? text = some inclusive ↔
      ∃ inner, text = opening inclusive :: (inner ++ [closing inclusive]) := by
  constructor
  · intro h
    -- the first and the last character differ, so they are two places of the text
    have hends : text.head? = some (opening inclusive) ∧
        text.getLast? = some (closing inclusive) := by
      rw [brackets?] at h
      split at h
      · next hhead hlast =>
          obtain rfl := Option.some.inj h
          exact ⟨hhead, hlast⟩
      · next hhead hlast =>
          obtain rfl := Option.some.inj h
          exact ⟨hhead, hlast⟩
      · cases h
    obtain ⟨hhead, hlast⟩ := hends
    obtain ⟨front, rfl⟩ := List.getLast?_eq_some_iff.mp hlast
    cases front with
    | nil => exact absurd (Option.some.inj hhead) (closing_ne_opening inclusive)
    | cons first inner =>
        obtain rfl : first = opening inclusive := Option.some.inj hhead
        exact ⟨inner, rfl⟩
  · rintro ⟨inner, rfl⟩
    have hlast : (opening inclusive :: (inner ++ [closing inclusive])).getLast? =
        some (closing inclusive) := by
      rw [← List.cons_append, List.getLast?_concat]
    rw [brackets?, hlast]
    cases inclusive <;> rfl

/-- Behind the opening and in front of the closing bracket, each one byte long, lies what they
enclose. -/
theorem bytesBetween?_brackets (inclusive : Bool) (inner : List Char) {text : String}
    (h : text.toList = opening inclusive :: (inner ++ [closing inclusive])) :
    bytesBetween? text 1 (text.utf8ByteSize - 1) = some (String.ofList inner) := by
  have htext : text = String.singleton (opening inclusive) ++ String.ofList inner ++
      String.singleton (closing inclusive) := by
    rw [← String.toList_inj, h]
    simp
  have hopening : (String.singleton (opening inclusive)).utf8ByteSize = 1 := by
    cases inclusive <;> rfl
  have hclosing : (String.singleton (closing inclusive)).utf8ByteSize = 1 := by
    cases inclusive <;> rfl
  have hpart := bytesBetween?_append (String.singleton (opening inclusive)) (String.ofList inner)
    (String.singleton (closing inclusive))
  rw [← htext, hopening] at hpart
  have hsize : text.utf8ByteSize - 1 = 1 + (String.ofList inner).utf8ByteSize := by
    rw [htext, String.utf8ByteSize_append, String.utf8ByteSize_append, hopening, hclosing]
    rfl
  rw [hsize, hpart]

/-- Counting finds the first separator and goes on behind it. -/
theorem separators_eq (text : List Char) :
    separators text = (cut? text).elim 0 fun parts => separators parts.2 + 1 := by
  induction text using cut?.induct with
  | case1 => rfl
  | case2 rest => rfl
  | case3 c rest hsep ih =>
      rw [separators, cut?, ih]
      · cases cut? rest <;> rfl
      · exact hsep
      · exact hsep

theorem separators_eq_zero_iff (text : List Char) : separators text = 0 ↔ cut? text = none := by
  rw [separators_eq]
  cases cut? text <;> simp

/-- A text has bounds when one separator is counted in it, and then it is cut there. -/
theorem bounds?_eq (text : List Char) :
    bounds? text = if separators text = 1 then cut? text else none := by
  rw [bounds?, separators_eq]
  cases hcut : cut? text with
  | none => rfl
  | some parts =>
      have hzero := separators_eq_zero_iff parts.2
      cases hafter : cut? parts.2 with
      | none => simp [hzero.mpr hafter, hafter]
      | some later => simp [hzero, hafter]

/-- Reading by byte offsets gives the boundary that a text writes. The offsets always stand between
characters, and a text with one separator is always cut. -/
theorem scan_eq (text : String) : scan text = (ofText? text).elim (.error .malformed) .ok := by
  rw [scan]
  rcases ofText?_cases text with ⟨inclusive, inner, htext, hread⟩ | ⟨hnot, hread⟩
  · rw [hread, brackets?_eq_some_iff.mpr ⟨inner, htext⟩]
    dsimp only
    rw [bytesBetween?_brackets inclusive inner htext]
    dsimp only
    rw [String.toList_ofList, inside?, bounds?_eq]
    by_cases hone : separators inner = 1
    · rw [if_pos hone, if_pos hone]
      cases hcut : cut? inner with
      | none =>
          -- a text that cannot be cut has no separator counted in it
          rw [(separators_eq_zero_iff inner).mpr hcut] at hone
          cases hone
      | some parts =>
          show (if _ then _ else _) = Option.elim (if _ then _ else _) _ _
          split <;> rfl
    · rw [if_neg hone, if_neg hone]
      rfl
  · have hnone : brackets? text.toList = none := by
      rw [Option.eq_none_iff_forall_ne_some]
      intro inclusive hsome
      obtain ⟨inner, htext⟩ := brackets?_eq_some_iff.mp hsome
      exact hnot inclusive inner htext
    rw [hread, hnone]
    rfl

end Boundary

namespace Rule

/-- **The rule of ranges accepts exactly its grammar.** Whatever stands on the left, it gives a text
when the right text writes a boundary, namely the condition on the trimmed bounds, and otherwise it
gives the right text back in its error. A text writes one boundary at most. Reading by byte offsets
comes to the same: no offset falls within a character or out of order, and no text in which a
separator has been counted is left uncut. -/
theorem apply_range_grammar (left text : String) :
    (∀ sql, Rule.range.apply left text = .ok sql ↔
      ∃ b : Boundary, b.Writes text ∧ sql = b.trimmed.condition left) ∧
    (∀ b b' : Boundary, b.Writes text → b'.Writes text → b = b') ∧
    (∀ e, Rule.range.apply left text = .error e ↔
      (¬ ∃ b : Boundary, b.Writes text) ∧ e = .malformedRange text) ∧
    ((∃ read, Boundary.scan text = .ok read ∧
        Rule.range.apply left text = .ok (read.condition left)) ∨
      (Boundary.scan text = .error .malformed ∧
        Rule.range.apply left text = .error (.malformedRange text))) := by
  have hunique : ∀ b b' : Boundary, b.Writes text → b'.Writes text → b = b' :=
    fun _ _ hb hb' => hb.unique hb'
  rw [Rule.apply, Boundary.scan_eq]
  cases hread : Boundary.ofText? text with
  | none =>
      have hnot : ¬ ∃ b : Boundary, b.Writes text := by
        rintro ⟨b, hb⟩
        rw [Boundary.ofText?_eq_some_iff.mpr ⟨b, hb, rfl⟩] at hread
        cases hread
      refine ⟨fun sql => ?_, hunique, fun e => ?_, .inr ⟨rfl, rfl⟩⟩
      · constructor
        · intro h
          cases h
        · rintro ⟨b, hb, -⟩
          exact absurd ⟨b, hb⟩ hnot
      · constructor
        · intro h
          exact ⟨hnot, (Except.error.inj h).symm⟩
        · rintro ⟨-, rfl⟩
          rfl
  | some read =>
      obtain ⟨b, hb, rfl⟩ := Boundary.ofText?_eq_some_iff.mp hread
      refine ⟨fun sql => ?_, hunique, fun e => ?_, .inl ⟨_, rfl, rfl⟩⟩
      · constructor
        · intro h
          exact ⟨b, hb, (Except.ok.inj h).symm⟩
        · rintro ⟨b', hb', rfl⟩
          rw [hb.unique hb']
      · constructor
        · intro h
          cases h
        · rintro ⟨hnot, -⟩
          exact absurd ⟨b, hb⟩ hnot

/-- Characters of several bytes stand next to the brackets and to the separator. -/
example : Boundary.scan "[é, ∞]" = .ok (.closed "é" "∞") := by
  decide

end Rule

end SqlFilter
