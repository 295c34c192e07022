set_option autoImplicit false

/-! # Operators of a query tree

Every node of a query tree carries one of nineteen operators. An operator has three spellings:
`name` is the one used in messages and in the log, `jsonName` the one written in JSON documents,
and `keyword?` the SQL word or symbol, for those operators that SQL has one for.
-/

namespace SqlFilter

/-- What a node of a query tree does with its two operands. -/
inductive Operator where
  | and
  | or
  | not
  | must
  | mustNot
  | equals
  | greater
  | greaterEq
  | less
  | lessEq
  | like
  | range
  | wild
  | regexp
  | fuzzy
  | boost
  | inList
  | list
  | literal
  deriving DecidableEq, Repr

namespace Operator

/-- The operators in their fixed order: connectives, relevance hints, comparisons, term shapes,
collections, and the literal. -/
def all : List Operator :=
  [.and, .or, .not, .must, .mustNot, .equals, .greater, .greaterEq, .less, .lessEq, .like, .range,
    .wild, .regexp, .fuzzy, .boost, .inList, .list, .literal]

/-- The name used in messages. -/
def name : Operator → String
  | .and => "And"
  | .or => "Or"
  | .not => "Not"
  | .must => "Must"
  | .mustNot => "MustNot"
  | .equals => "Equals"
  | .greater => "Greater"
  | .greaterEq => "GreaterEq"
  | .less => "Less"
  | .lessEq => "LessEq"
  | .like => "Like"
  | .range => "Range"
  | .wild => "Wild"
  | .regexp => "Regexp"
  | .fuzzy => "Fuzzy"
  | .boost => "Boost"
  | .inList => "In"
  | .list => "List"
  | .literal => "Literal"

/-- The name used in JSON documents. -/
def jsonName : Operator → String
  | .and => "and"
  | .or => "or"
  | .not => "not"
  | .must => "must"
  | .mustNot => "must_not"
  | .equals => "equals"
  | .greater => "greater"
  | .greaterEq => "greater_eq"
  | .less => "less"
  | .lessEq => "less_eq"
  | .like => "like"
  | .range => "range"
  | .wild => "wild"
  | .regexp => "regexp"
  | .fuzzy => "fuzzy"
  | .boost => "boost"
  | .inList => "in"
  | .list => "list"
  | .literal => "literal"

/-- The SQL word or symbol. Pass-through operators have none, and negation has one word for its
two operators. -/
def keyword? : Operator → Option String
  | .and => some "AND"
  | .or => some "OR"
  | .not | .mustNot => some "NOT"
  | .equals => some "="
  | .greater => some ">"
  | .greaterEq => some ">="
  | .less => some "<"
  | .lessEq => some "<="
  | .like => some "LIKE"
  | .inList => some "IN"
  | .must | .range | .wild | .regexp | .fuzzy | .boost | .list | .literal => none

/-- The SQL spelling, or the name where SQL has none. -/
def spelling (op : Operator) : String :=
  op.keyword?.getD op.name

/-- The operator with the given JSON name. -/
def ofJsonName? (name : String) : Option Operator :=
  all.find? (·.jsonName == name)

theorem mem_all (op : Operator) : op ∈ all := by
  cases op <;> decide

theorem all_nodup : all.Nodup := by
  decide

theorem ofJsonName?_jsonName (op : Operator) : ofJsonName? op.jsonName = some op := by
  cases op <;> decide

end Operator

end SqlFilter
