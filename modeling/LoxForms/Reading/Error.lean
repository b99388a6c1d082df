/-! # Why a source text cannot be read -/

namespace LoxForms

inductive ReadError where
  /-- The text ends inside a form, or where one is needed. -/
  | prematureTermination
  | unexpectedClose (line : UInt32)
  /-- A statement begins with an atom. -/
  | expectedForm (found : String) (line : UInt32)
  | missingHead (line : UInt32)
  | unknownForm (head : String) (line : UInt32)
  | wrongArity (head : String) (found : Nat) (line : UInt32)
  | expectedIdentifier (found : String) (line : UInt32)
  | trailingInput (line : UInt32)
deriving DecidableEq, Repr

def ReadError.message : ReadError → String
  | .prematureTermination => "Input ended inside a form"
  | .unexpectedClose line => s!"Unexpected ')'. Line {line}"
  | .expectedForm found line => s!"Expected a form, found {found}. Line {line}"
  | .missingHead line => s!"Form has no head. Line {line}"
  | .unknownForm head line => s!"Unknown form '{head}'. Line {line}"
  | .wrongArity head found line => s!"'{head}' cannot take {found} operand(s). Line {line}"
  | .expectedIdentifier found line => s!"Expected an identifier, found {found}. Line {line}"
  | .trailingInput line => s!"Trailing input after expression. Line {line}"

end LoxForms
