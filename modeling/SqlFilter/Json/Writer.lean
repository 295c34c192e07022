import SqlFilter.Query.Basic
import SqlFilter.Numeric.Notation

set_option autoImplicit false

/-! # Writing query trees as JSON

The text is compact. A node is an object with its operator and those sides that are not absent; an
operand is an object with a single member named for its kind, or the bare name when it is absent; a
constant is written as itself. A number that is not finite has no JSON text and becomes `null`.
-/

namespace SqlFilter.Json

/-! ## Strings -/

/-- A hexadecimal digit, in lower case. -/
def hexDigit (n : Nat) : Char :=
  Nat.digitChar n

/-- One character inside a string. The quote, the backslash and the controls are escaped. -/
def escapeChar (c : Char) : List Char :=
  if c = '"' then ['\\', '"']
  else if c = '\\' then ['\\', '\\']
  else if c.toNat = 8 then ['\\', 'b']
  else if c.toNat = 12 then ['\\', 'f']
  else if c = '\n' then ['\\', 'n']
  else if c = '\r' then ['\\', 'r']
  else if c = '\t' then ['\\', 't']
  else if c.toNat < 0x20 then
    ['\\', 'u', '0', '0', hexDigit (c.toNat / 16), hexDigit (c.toNat % 16)]
  else [c]

/-- A string in double quotes. -/
def writeString (s : String) : List Char :=
  '"' :: (s.toList.flatMap escapeChar ++ ['"'])

/-! ## Objects and lists -/

/-- Texts with commas between them. -/
def commas : List (List Char) → List Char
  | [] => []
  | [item] => item
  | item :: rest => item ++ ',' :: commas rest

/-- A member of an object. -/
def member (key : String) (value : List Char) : List Char :=
  writeString key ++ ':' :: value

/-- An object of the given members. -/
def object (members : List (List Char)) : List Char :=
  '\x7b' :: (commas members ++ ['\x7d'])

/-- A list of the given items. -/
def list (items : List (List Char)) : List Char :=
  '[' :: (commas items ++ [']'])

/-- A truth value. -/
def writeBool (value : Bool) : List Char :=
  if value then "true".toList else "false".toList

end SqlFilter.Json

namespace SqlFilter

open Json

/-! ## Query trees -/

/-- The JSON text of an operator. -/
def Operator.writeJson (op : Operator) : List Char :=
  writeString op.jsonName

/-- The JSON text of a constant. -/
def Scalar.writeJson : Scalar → List Char
  | .bool value => writeBool value
  | .int value => (toString value.toInt).toList
  | .uint value => (toString value.toNat).toList
  | .float value => value.jsonText?.getD "null".toList
  | .string value => writeString value

/-- The JSON text of a column. -/
def Column.writeJson (column : Column) : List Char :=
  writeString column.name

/-- The JSON text of a range boundary. -/
def Boundary.writeJson (b : Boundary) : List Char :=
  object
    [member "min" (writeString b.min), member "max" (writeString b.max),
      member "inclusive" (writeBool b.inclusive)]

/-- A member for a side of a node; an absent side has none. -/
def sideMember (key : String) (operand : Operand) (text : List Char) : List (List Char) :=
  if operand.isAbsent then [] else [member key text]

mutual

/-- The JSON text of a tree. -/
def Expr.writeJson : Expr → List Char
  | .node op left right =>
    object
      (member "op" op.writeJson :: (sideMember "left" left left.writeJson ++
        sideMember "right" right right.writeJson))

/-- The JSON text of an operand. -/
def Operand.writeJson : Operand → List Char
  | .absent => writeString "absent"
  | .expr tree => object [member "expr" tree.writeJson]
  | .list items => object [member "list" (list (Expr.writeAllJson items))]
  | .range boundary => object [member "range" boundary.writeJson]
  | .column column => object [member "column" column.writeJson]
  | .value scalar => object [member "value" scalar.writeJson]

/-- The JSON texts of several trees. -/
def Expr.writeAllJson : List Expr → List (List Char)
  | [] => []
  | item :: rest => item.writeJson :: Expr.writeAllJson rest

end

/-- The JSON document of a tree. -/
def Expr.toJson (tree : Expr) : String :=
  String.ofList tree.writeJson

end SqlFilter
