import SqlFilter.Pattern.Meaning
import SqlFilter.Pattern.Reader
import SqlFilter.Pattern.Room
import SqlFilter.Pattern.Search

set_option autoImplicit false

/-! # Patterns from texts

`Pattern.ofText` makes a pattern of a text, or says why there is none.
-/

namespace SqlFilter.Pattern

/-- Why there is no pattern to be had from a text. -/
inductive CompileError where
  /-- the text is not a pattern -/
  | defect (text : String) (d : Defect)
  /-- the pattern asks for an edge of words of any characters, for which there is no table -/
  | unicodeWord
  /-- the pattern takes too much room -/
  | tooLarge
  deriving DecidableEq, Repr

/-- The words for an error. -/
def CompileError.message : CompileError → String
  | .defect text d => d.report text
  | .unicodeWord => "error building NFA"
  | .tooLarge => "Compiled regex exceeds size limit of " ++ toString roomLimit ++ " bytes."

/-- Whether an atom is an edge of words of any characters. -/
def Atom.isUnicodeWord : Atom → Bool
  | .look (.word _ unicode) => unicode
  | _ => false

/-- The pattern that a text writes. -/
def ofText (text : String) : Except CompileError (Pattern Atom) :=
  match Tree.ofText text >>= Tree.meaning with
  | .error d => .error (.defect text d)
  | .ok p =>
    if p.isTooLarge false then .error .tooLarge
    else if p.any Atom.isUnicodeWord then .error .unicodeWord
    else if p.isTooLarge true then .error .tooLarge
    else .ok p

end SqlFilter.Pattern
