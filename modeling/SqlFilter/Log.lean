set_option autoImplicit false

/-! # Log records

A record has a level, the part of the program it comes from, and a message.
-/

namespace SqlFilter

/-- How much a record matters, from the most to the least. -/
inductive Level where
  | error
  | warn
  | info
  | debug
  | trace
  deriving DecidableEq, Repr

namespace Level

/-- The name of a level. -/
def name : Level → String
  | .error => "ERROR"
  | .warn => "WARN"
  | .info => "INFO"
  | .debug => "DEBUG"
  | .trace => "TRACE"

/-- How much a level lets through: higher levels are more verbose. -/
def rank : Level → Nat
  | .error => 1
  | .warn => 2
  | .info => 3
  | .debug => 4
  | .trace => 5

end Level

/-- One entry of the log. -/
structure Record where
  level : Level
  target : String
  message : String
  deriving DecidableEq, Repr

end SqlFilter
