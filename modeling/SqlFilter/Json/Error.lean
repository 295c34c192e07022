import SqlFilter.Numeric.Notation
import SqlFilter.Text.Quoted

set_option autoImplicit false

/-! # Why a document cannot be read

A document is refused for one of three reasons. It ends too early, and more text might complete it;
it is not well formed, or leaves the limits of the reader; or it is well formed but says something
that does not fit the place where it stands.
-/

namespace SqlFilter.Json

/-- What was being read when the document ended. -/
inductive Place where
  | value
  | string
  | list
  | object
  deriving DecidableEq, Repr

/-- What is wrong with the text of a document. -/
inductive Fault where
  /-- no value starts like this -/
  | value
  /-- a word that starts like `true`, `false` or `null` goes on otherwise -/
  | word
  /-- a number is badly formed -/
  | number
  /-- a number is too large for a double -/
  | numberRange
  /-- no colon after a key -/
  | colon
  /-- no comma or closing bracket after an item -/
  | itemEnd
  /-- no comma or closing brace after a member -/
  | memberEnd
  /-- a key that is not a string -/
  | key
  /-- a comma before a closing bracket or brace -/
  | trailingComma
  /-- text after the document, or after the last field of a list of fields -/
  | trailingText
  /-- an escape that does not exist -/
  | escape
  /-- a control character inside a string -/
  | control
  /-- a high surrogate without an escape after it -/
  | halfPair
  /-- a surrogate without its partner -/
  | loneSurrogate
  /-- too many brackets and braces inside one another -/
  | nesting
  deriving DecidableEq, Repr

/-- What a place in a document calls for. -/
inductive Wanted where
  | expression
  | boundary
  | sequence
  | string
  | boolean
  | unit
  /-- a content besides the name -/
  | content
  deriving DecidableEq, Repr

/-- What stands in a place, as far as messages tell. -/
inductive Found where
  | null
  | bool (value : Bool)
  | integer (value : Int)
  | float (value : Binary64)
  | string (value : String)
  | list
  | object
  /-- a name without a content -/
  | bareName
  deriving DecidableEq

/-- What does not fit. -/
inductive Misfit where
  | type (found : Found) (wanted : Wanted)
  | length (count : Nat) (wanted : Wanted)
  | unknownVariant (name : String) (known : List String)
  | duplicateField (name : String)
  | missingField (name : String)
  /-- a constant is neither a boolean nor a number nor a string -/
  | scalar
  deriving DecidableEq

/-- Why a document cannot be read. -/
inductive Error where
  | unfinished (place : Place)
  | malformed (fault : Fault)
  | misfit (mismatch : Misfit)
  deriving DecidableEq

/-- The three reasons, without their particulars. -/
inductive Category where
  | eof
  | syntactic
  | data
  deriving DecidableEq, Repr

/-- The name of a reason. -/
def Category.name : Category → String
  | .eof => "eof"
  | .syntactic => "syntax"
  | .data => "data"

/-- The words for a fault. -/
def Fault.message : Fault → String
  | .value => "expected value"
  | .word => "expected ident"
  | .number => "invalid number"
  | .numberRange => "number out of range"
  | .colon => "expected `:`"
  | .itemEnd => "expected `,` or `]`"
  | .memberEnd => "expected `,` or `\x7d`"
  | .key => "key must be a string"
  | .trailingComma => "trailing comma"
  | .trailingText => "trailing characters"
  | .escape => "invalid escape"
  | .control => "control character (\\u0000-\\u001F) found while parsing a string"
  | .halfPair => "unexpected end of hex escape"
  | .loneSurrogate => "lone leading surrogate in hex escape"
  | .nesting => "recursion limit exceeded"

/-- The words for what a place calls for. -/
def Wanted.name : Wanted → String
  | .expression => "struct Expression"
  | .boundary => "struct RangeBoundary"
  | .sequence => "a sequence"
  | .string => "a string"
  | .boolean => "a boolean"
  | .unit => "unit"
  | .content => "newtype variant"

/-- The words for what stands in a place. -/
def Found.name : Found → String
  | .null => "null"
  | .bool value => "boolean `" ++ (if value then "true" else "false") ++ "`"
  | .integer value => "integer `" ++ toString value ++ "`"
  | .float value => "floating point `" ++ String.ofList (value.jsonText?.getD []) ++ "`"
  | .string value => "string " ++ Text.quoted value
  | .list => "sequence"
  | .object => "map"
  | .bareName => "unit variant"

/-- A name in the marks that set names off in messages. -/
def marked (name : String) : String :=
  "`" ++ name ++ "`"

/-- The words for what does not fit. -/
def Misfit.message : Misfit → String
  | .type found wanted => "invalid type: " ++ found.name ++ ", expected " ++ wanted.name
  | .length count wanted =>
    "invalid length " ++ toString count ++ ", expected " ++ wanted.name ++ " with 3 elements"
  | .unknownVariant name known =>
    "unknown variant " ++ marked name ++ ", expected one of " ++ ", ".intercalate (known.map marked)
  | .duplicateField name => "duplicate field " ++ marked name
  | .missingField name => "missing field " ++ marked name
  | .scalar => "data did not match any variant of untagged enum Scalar"

namespace Error

/-- The reason, without its particulars. -/
def category : Error → Category
  | .unfinished _ => .eof
  | .malformed _ => .syntactic
  | .misfit _ => .data

/-- The words for an error. -/
def message : Error → String
  | .unfinished .string => "EOF while parsing a string"
  | .unfinished .list => "EOF while parsing a list"
  | .unfinished .object => "EOF while parsing an object"
  | .unfinished .value => "EOF while parsing a value"
  | .malformed f => f.message
  | .misfit m => m.message

end Error

end SqlFilter.Json
