import LoxForms.Value

/-! # What atoms stand for -/

namespace LoxForms.Atom

def isNameStart (c : Char) : Bool := c.isAlpha || c == '_'

def isNamePart (c : Char) : Bool := c.isAlphanum || c == '_'

/-- An identifier is made of ASCII letters, digits and underscores, and begins with no digit. -/
def isIdentifier (atom : String) : Bool :=
  match atom.toList with
  | [] => false
  | first :: others => isNameStart first && others.all isNamePart

/-- Three words and the numerals stand for values of their own, any other atom for itself. -/
def value (atom : String) : Value :=
  match atom with
  | "nil" => .nil
  | "true" => .boolean true
  | "false" => .boolean false
  | _ =>
    match Number.read? atom with
    | some x => .number x
    | none => .string atom

end LoxForms.Atom
