import SqlFilter.Json.Hole
import SqlFilter.Json.Number

set_option autoImplicit false

/-! # Reading query trees from JSON

The reader takes a document one character at a time. `State.step` is one character, `State.run` a
text, and `State.finish` the end of the document. The first error met is the answer: after it
nothing changes any more.
-/

namespace SqlFilter.Json

/-- Where inside brackets or braces the reader is: before the first item, after an item, or after a
comma. -/
inductive Phase where
  | first
  | after
  | next
  deriving DecidableEq, Repr

/-- A value without parts. -/
inductive Atom where
  | null
  | scalar (value : Scalar)
  deriving DecidableEq

/-- A state of the reader other than inside a number. -/
inductive Stage (ρ : Type) where
  | failed (error : Error)
  /-- the document is complete -/
  | finished (result : ρ)
  /-- before a value -/
  | expecting (spot : Spot ρ)
  /-- inside a word, with the character that has to come and those after it -/
  | word (next : Char) (rest : List Char) (atom : Atom) (slot : Slot ρ)
  | text (scan : TextScan) (use : TextUse ρ)
  /-- before the colon in front of a value -/
  | colon (spot : Spot ρ)
  /-- before the name in braces -/
  | variant (choice : Choice ρ)
  /-- between items or members -/
  | inside (phase : Phase) (bracket : Open ρ)
  /-- before the brace that closes a name and its content -/
  | closing (next : Stage ρ)

/-- A state of the reader. -/
inductive State (ρ : Type) where
  | at (stage : Stage ρ)
  | number (scan : NumberScan) (slot : Slot ρ)

variable {ρ : Type}

namespace Stage

/-- The text is not well formed. -/
def malformed (fault : Fault) : Stage ρ :=
  .failed (.malformed fault)

/-- A value does not fit its place. -/
def misfit (m : Misfit) : Stage ρ :=
  .failed (.misfit m)

/-- A value is of the wrong type. -/
def mistyped (found : Found) (wanted : Wanted) : Stage ρ :=
  .misfit (.type found wanted)

end Stage

/-! ## Filling holes -/

/-- After a field of a node. -/
def NodeField.filled (field : NodeField) (form : Form) (draft : NodeDraft) (hole : ExprHole ρ) :
    Stage ρ :=
  match form with
  | .object => .inside .after (.node draft hole)
  | .array => .inside .after (.nodeList field.next? draft hole)

/-- After a field of a range boundary. -/
def BoundaryField.filled (field : BoundaryField) (form : Form) (draft : BoundaryDraft)
    (hole : BoundaryHole ρ) : Stage ρ :=
  match form with
  | .object => .inside .after (.boundary draft hole)
  | .array => .inside .after (.boundaryList field.next? draft hole)

/-- After an operand. -/
def OperandHole.fill : OperandHole ρ → Operand → Stage ρ
  | .document finish, operand => .finished (finish operand)
  | .side which form draft node, operand =>
    NodeField.filled (.side which) form (draft.setSide which operand) node

/-- After a tree. -/
def ExprHole.fill : ExprHole ρ → Expr → Stage ρ
  | .document finish, tree => .finished (finish tree)
  | .inner operand, tree => .closing (operand.fill (.expr tree))
  | .item before operand, tree => .inside .after (.items (tree :: before) operand)

/-- After an operator. -/
def OperatorHole.fill : OperatorHole ρ → Operator → Stage ρ
  | .document finish, value => .finished (finish value)
  | .op form draft node, value => NodeField.filled .op form (draft.setOp value) node

/-- After a range boundary. -/
def BoundaryHole.fill : BoundaryHole ρ → Boundary → Stage ρ
  | .document finish, boundary => .finished (finish boundary)
  | .operand hole, boundary => .closing (hole.fill (.range boundary))

/-- After a text. -/
def TextHole.fill : TextHole ρ → String → Stage ρ
  | .document finish, text => .finished (finish text)
  | .column operand, text => .closing (operand.fill (.column ⟨text⟩))
  | .bound which form draft boundary, text =>
    BoundaryField.filled (.bound which) form (draft.setBound which text) boundary

/-- After the truth value of a range boundary. -/
def FlagHole.fill (hole : FlagHole ρ) (value : Bool) : Stage ρ :=
  BoundaryField.filled .inclusive hole.form (hole.draft.setInclusive value) hole.boundary

/-- After a constant. -/
def ScalarHole.fill : ScalarHole ρ → Scalar → Stage ρ
  | .document finish, scalar => .finished (finish scalar)
  | .value operand, scalar => .closing (operand.fill (.value scalar))

/-- After the content of a name that has none. -/
def UnitHole.fill : UnitHole ρ → Stage ρ
  | .operator op hole => .closing (hole.fill op)
  | .absent operand => .closing (operand.fill .absent)

/-- After a value that was walked over, inside the given brackets. -/
def Passage.passed (passage : Passage ρ) : List Form → Stage ρ
  | form :: outer => .inside .after (.passing form outer passage)
  | [] =>
    match passage with
    | .scalar _ => .misfit .scalar
    | .node draft hole => .inside .after (.node draft hole)
    | .boundary draft hole => .inside .after (.boundary draft hole)

/-- What messages tell of a value without parts. -/
def Atom.found : Atom → Found
  | .null => .null
  | .scalar (.bool value) => .bool value
  | .scalar (.int value) => .integer value.toInt
  | .scalar (.uint value) => .integer value.toNat
  | .scalar (.float value) => .float value
  | .scalar (.string value) => .string value

/-- After a value without parts. -/
def Slot.accept : Slot ρ → Atom → Stage ρ
  | .node _, atom => .mistyped atom.found .expression
  | .boundary _, atom => .mistyped atom.found .boundary
  | .items _, atom => .mistyped atom.found .sequence
  | .text hole, .scalar (.string value) => hole.fill value
  | .text _, atom => .mistyped atom.found .string
  | .flag hole, .scalar (.bool value) => hole.fill value
  | .flag _, atom => .mistyped atom.found .boolean
  | .unit hole, .null => hole.fill
  | .unit _, atom => .mistyped atom.found .unit
  | .scalar hole, .scalar value => hole.fill value
  | .scalar _, .null => .misfit .scalar
  | .passing outer passage, _ => passage.passed outer

/-- After a number. A number that counts must not be too large. -/
def Slot.acceptNumber (slot : Slot ρ) (scan : NumberScan) : Stage ρ :=
  match scan.scalar? with
  | some value => slot.accept (.scalar value)
  | none => if slot.isChecked then .malformed .numberRange else slot.accept .null

/-! ## Names and keys -/

/-- The names of operators do not include this one. -/
def unknownOperator (name : String) : Misfit :=
  .unknownVariant name (Operator.all.map Operator.jsonName)

/-- The names of the kinds of operands do not include this one. -/
def unknownOperand (name : String) : Misfit :=
  .unknownVariant name (OperandKind.all.map OperandKind.name)

/-- After a name without a content. -/
def Choice.bare : Choice ρ → String → Stage ρ
  | .operator hole, name =>
    match Operator.ofJsonName? name with
    | some op => hole.fill op
    | none => .misfit (unknownOperator name)
  | .operand hole, name =>
    match OperandKind.ofName? name with
    | some .absent => hole.fill .absent
    | some _ => .mistyped .bareName .content
    | none => .misfit (unknownOperand name)

/-- The place for the content of an operand of a given kind. -/
def OperandKind.slot (kind : OperandKind) (hole : OperandHole ρ) : Slot ρ :=
  match kind with
  | .absent => .unit (.absent hole)
  | .expr => .node (.inner hole)
  | .list => .items hole
  | .range => .boundary (.operand hole)
  | .column => .text (.column hole)
  | .value => .scalar (.value hole)

/-- After a name that a content belongs to. -/
def Choice.named : Choice ρ → String → Stage ρ
  | .operator hole, name =>
    match Operator.ofJsonName? name with
    | some op => .colon (.slot (.unit (.operator op hole)))
    | none => .misfit (unknownOperator name)
  | .operand hole, name =>
    match OperandKind.ofName? name with
    | some kind => .colon (.slot (kind.slot hole))
    | none => .misfit (unknownOperand name)

/-- The place for a field of a node. -/
def NodeField.spot (field : NodeField) (form : Form) (draft : NodeDraft) (hole : ExprHole ρ) :
    Spot ρ :=
  match field with
  | .op => .choice (.operator (.op form draft hole))
  | .side which => .choice (.operand (.side which form draft hole))

/-- The place for a field of a range boundary. -/
def BoundaryField.spot (field : BoundaryField) (form : Form) (draft : BoundaryDraft)
    (hole : BoundaryHole ρ) : Spot ρ :=
  match field with
  | .bound which => .slot (.text (.bound which form draft hole))
  | .inclusive => .slot (.flag ⟨form, draft, hole⟩)

/-- After a key of a node. A key without meaning is passed by with its value. -/
def NodeDraft.key (draft : NodeDraft) (hole : ExprHole ρ) (name : String) : Stage ρ :=
  match NodeField.ofName? name with
  | none => .colon (.slot (.passing [] (.node draft hole)))
  | some field =>
    if draft.has field then .misfit (.duplicateField field.name)
    else .colon (field.spot .object draft hole)

/-- After a key of a range boundary. -/
def BoundaryDraft.key (draft : BoundaryDraft) (hole : BoundaryHole ρ) (name : String) : Stage ρ :=
  match BoundaryField.ofName? name with
  | none => .colon (.slot (.passing [] (.boundary draft hole)))
  | some field =>
    if draft.has field then .misfit (.duplicateField field.name)
    else .colon (field.spot .object draft hole)

/-- After a string. -/
def TextUse.finish : TextUse ρ → String → Stage ρ
  | .bare choice, text => choice.bare text
  | .variant choice, text => choice.named text
  | .value slot, text => slot.accept (.scalar (.string text))
  | .nodeKey draft hole, text => draft.key hole text
  | .boundaryKey draft hole, text => draft.key hole text
  | .passingKey outer passage, _ => .colon (.slot (.passing outer passage))

/-! ## Brackets and braces -/

/-- The greatest number of brackets and braces inside one another. -/
def nestingLimit : Nat :=
  127

/-- One more bracket or brace, unless that makes too many. -/
def Stage.nested (depth : Nat) (stage : Stage ρ) : Stage ρ :=
  if depth < nestingLimit then stage else .malformed .nesting

/-- What messages tell of a value with parts. -/
def Form.found : Form → Found
  | .object => .object
  | .array => .list

/-- After an opening bracket or brace. -/
def Slot.opened (slot : Slot ρ) (form : Form) : Stage ρ :=
  match slot, form with
  | .node hole, .object => .nested hole.depth (.inside .first (.node .empty hole))
  | .node hole, .array => .nested hole.depth (.inside .first (.nodeList (some .op) .empty hole))
  | .boundary hole, .object => .nested hole.depth (.inside .first (.boundary .empty hole))
  | .boundary hole, .array =>
    .nested hole.depth (.inside .first (.boundaryList (some (.bound .min)) .empty hole))
  | .items operand, .array => .nested (operand.depth + 1) (.inside .first (.items [] operand))
  | .items _, .object => .mistyped .object .sequence
  | .text _, form => .mistyped form.found .string
  | .flag _, form => .mistyped form.found .boolean
  | .unit _, form => .mistyped form.found .unit
  | .scalar hole, form => .nested hole.depth (.inside .first (.passing form [] (.scalar hole)))
  | .passing outer (.scalar hole), form =>
    .nested (hole.depth + outer.length) (.inside .first (.passing form outer (.scalar hole)))
  | .passing outer passage, form => .inside .first (.passing form outer passage)

/-- The kind of brackets. -/
def Open.form : Open ρ → Form
  | .node .. | .boundary .. => .object
  | .nodeList .. | .boundaryList .. | .items .. => .array
  | .passing form _ _ => form

/-- After the closing bracket or brace. -/
def Open.close : Open ρ → Stage ρ
  | .node draft hole =>
    match draft.expr? with
    | some tree => hole.fill tree
    | none => .misfit (.missingField NodeField.op.name)
  | .nodeList _ draft hole =>
    match draft.expr? with
    | some tree => hole.fill tree
    | none => .misfit (.length 0 .expression)
  | .boundary draft hole =>
    match draft.boundary? with
    | .ok value => hole.fill value
    | .error (_, field) => .misfit (.missingField field.name)
  | .boundaryList _ draft hole =>
    match draft.boundary? with
    | .ok value => hole.fill value
    | .error (count, _) => .misfit (.length count .boundary)
  | .items before operand => .closing (operand.fill (.list before.reverse))
  | .passing _ outer passage => passage.passed outer

/-- The place for the next item of a list, `none` when all fields have been read. -/
def Open.item? : Open ρ → Option (Spot ρ)
  | .nodeList next draft hole => next.map (·.spot .array draft hole)
  | .boundaryList next draft hole => next.map (·.spot .array draft hole)
  | .items before operand => some (.slot (.node (.item before operand)))
  | .passing form outer passage => some (.slot (.passing (form :: outer) passage))
  | .node .. | .boundary .. => none

/-- At the opening quote of a key. -/
def Open.key : Open ρ → Stage ρ
  | .node draft hole => .text .start (.nodeKey draft hole)
  | .boundary draft hole => .text .start (.boundaryKey draft hole)
  | .passing form outer passage => .text .start (.passingKey (form :: outer) passage)
  | .nodeList .. | .boundaryList .. | .items .. => .malformed .key

/-- Whether what stands inside is held to the rules of values that count. -/
def Open.isChecked : Open ρ → Bool
  | .passing _ _ passage => passage.isChecked
  | _ => true

/-! ## One character -/

/-- Whether a character may stand between any two parts of a document. -/
def isSpace (c : Char) : Bool :=
  c == ' ' || c == '\n' || c == '\t' || c == '\r'

/-- The first character of a value that is not chosen by name. -/
def Slot.begin (slot : Slot ρ) (c : Char) : State ρ :=
  if c = '"' then .at (.text .start (.value slot))
  else if c = '[' then .at (slot.opened .array)
  else if c = '\x7b' then .at (slot.opened .object)
  else if c = 'n' then .at (.word 'u' ['l', 'l'] .null slot)
  else if c = 't' then .at (.word 'r' ['u', 'e'] (.scalar (.bool true)) slot)
  else if c = 'f' then .at (.word 'a' ['l', 's', 'e'] (.scalar (.bool false)) slot)
  else if c = '-' ∨ c.isDigit then .number (.start c) slot
  else .at (.malformed .value)

/-- The first character of a value. -/
def Spot.begin (spot : Spot ρ) (c : Char) : State ρ :=
  match spot with
  | .choice names =>
    if c = '"' then .at (.text .start (.bare names))
    else if c = '\x7b' then .at (.nested names.depth (.variant names))
    else .at (.malformed .value)
  | .slot place => place.begin c

/-- One character inside braces. -/
def Open.stepObject (bracket : Open ρ) (phase : Phase) (c : Char) : Stage ρ :=
  match phase with
  | .first =>
    if c = '"' then bracket.key
    else if c = '\x7d' then bracket.close
    else .malformed .key
  | .after =>
    if c = ',' then .inside .next bracket
    else if c = '\x7d' then bracket.close
    else .malformed .memberEnd
  | .next =>
    if c = '"' then bracket.key
    else if c = '\x7d' ∧ bracket.isChecked then .malformed .trailingComma
    else .malformed .key

/-- One character inside brackets. -/
def Open.stepArray (bracket : Open ρ) (phase : Phase) (c : Char) : State ρ :=
  match phase, bracket.item? with
  | .first, some spot => if c = ']' then .at bracket.close else spot.begin c
  | .first, none => if c = ']' then .at bracket.close else .at (.malformed .trailingText)
  | .after, item =>
    if c = ',' then .at (.inside .next bracket)
    else if c = ']' then .at bracket.close
    else .at (.malformed (if item.isSome then .itemEnd else .trailingText))
  | .next, item =>
    if c = ']' ∧ bracket.isChecked then .at (.malformed .trailingComma)
    else
      match item with
      | some spot => spot.begin c
      | none => .at (.malformed .trailingText)

/-- One character that is not space. -/
def Stage.stepSolid (stage : Stage ρ) (c : Char) : State ρ :=
  match stage with
  | .expecting spot => spot.begin c
  | .colon spot => if c = ':' then .at (.expecting spot) else .at (.malformed .colon)
  | .variant choice =>
    if c = '"' then .at (.text .start (.variant choice))
    else if c = '\x7d' then .at (.malformed .value)
    else .at (.malformed .key)
  | .inside phase bracket =>
    match bracket.form with
    | .object => .at (bracket.stepObject phase c)
    | .array => bracket.stepArray phase c
  | .closing next => if c = '\x7d' then .at next else .at (.malformed .value)
  | .finished _ => .at (.malformed .trailingText)
  | .failed _ | .word .. | .text .. => .at stage

/-- One character, outside a number. -/
def Stage.step (stage : Stage ρ) (c : Char) : State ρ :=
  match stage with
  | .failed _ => .at stage
  | .word next rest atom slot =>
    if c = next then
      match rest with
      | [] => .at (slot.accept atom)
      | next :: rest => .at (.word next rest atom slot)
    else
      .at (.malformed .word)
  | .text scan use =>
    match scan.step use.isChecked c with
    | .more scan => .at (.text scan use)
    | .over value => .at (use.finish value)
    | .bad fault => .at (.malformed fault)
  | _ => if isSpace c then .at stage else stage.stepSolid c

namespace State

/-- One character. The character after a number ends it and then counts for itself. -/
def step (state : State ρ) (c : Char) : State ρ :=
  match state with
  | .at stage => stage.step c
  | .number scan slot =>
    match scan.step c with
    | .more scan => .number scan slot
    | .over => (slot.acceptNumber scan).step c
    | .bad => .at (.malformed .number)

/-- A text. -/
def run (state : State ρ) (text : List Char) : State ρ :=
  text.foldl step state

@[simp] theorem run_nil (state : State ρ) : state.run [] = state := rfl

theorem run_cons (state : State ρ) (c : Char) (text : List Char) :
    state.run (c :: text) = (state.step c).run text := rfl

theorem run_append (state : State ρ) (first second : List Char) :
    state.run (first ++ second) = (state.run first).run second :=
  List.foldl_append

/-- The first error is the answer, whatever follows. -/
theorem run_failed (error : Error) (text : List Char) :
    (State.at (.failed error) : State ρ).run text = .at (.failed error) := by
  induction text with
  | nil => rfl
  | cons c text ih => exact ih

end State

/-! ## The end of the document -/

/-- What is missing inside brackets or braces at the end of a document. -/
def Open.unfinished (bracket : Open ρ) (phase : Phase) : Error :=
  match bracket.form, phase with
  | .object, .next => .unfinished (if bracket.isChecked then .value else .object)
  | .object, _ => .unfinished .object
  | .array, .next => if bracket.item?.isSome then .unfinished .value else .malformed .trailingText
  | .array, _ => .unfinished .list

/-- The end of the document, outside a number. -/
def Stage.finish : Stage ρ → Except Error ρ
  | .failed error => .error error
  | .finished result => .ok result
  | .expecting _ => .error (.unfinished .value)
  | .word .. => .error (.unfinished .value)
  | .text .. => .error (.unfinished .string)
  | .colon _ => .error (.unfinished .object)
  | .variant _ => .error (.unfinished .object)
  | .inside phase bracket => .error (bracket.unfinished phase)
  | .closing _ => .error (.unfinished .object)

namespace State

/-- The end of the document. -/
def finish : State ρ → Except Error ρ
  | .at stage => stage.finish
  | .number scan slot =>
    if scan.isComplete then (slot.acceptNumber scan).finish
    else if slot.isChecked then .error (.unfinished .value)
    else .error (.malformed .number)

/-- The result of reading a whole document. -/
def read (state : State ρ) (document : String) : Except Error ρ :=
  (state.run document.toList).finish

/-- Before a document that holds a value for the given place. -/
def before (spot : Spot ρ) : State ρ :=
  .at (.expecting spot)

end State

end SqlFilter.Json

/-! ## Documents -/

namespace SqlFilter

open Json

/-- The tree in a JSON document. -/
def Expr.ofJson (document : String) : Except Json.Error Expr :=
  (State.before (.slot (.node (.document id)))).read document

/-- The operand in a JSON document. -/
def Operand.ofJson (document : String) : Except Json.Error Operand :=
  (State.before (.choice (.operand (.document id)))).read document

/-- The operator in a JSON document. -/
def Operator.ofJson (document : String) : Except Json.Error Operator :=
  (State.before (.choice (.operator (.document id)))).read document

/-- The constant in a JSON document. -/
def Scalar.ofJson (document : String) : Except Json.Error Scalar :=
  (State.before (.slot (.scalar (.document id)))).read document

/-- The range boundary in a JSON document. -/
def Boundary.ofJson (document : String) : Except Json.Error Boundary :=
  (State.before (.slot (.boundary (.document id)))).read document

/-- The column in a JSON document. -/
def Column.ofJson (document : String) : Except Json.Error Column :=
  (State.before (.slot (.text (.document Column.mk)))).read document

end SqlFilter
