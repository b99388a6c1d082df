import LoxForms.Number
import LoxForms.Text.Quoted

/-! # Values

What a literal holds and what an operation yields.  A value has two texts: the plain one, in
which a string stands as it is, and the tagged one of error messages, which names the kind of the
value and quotes strings.
-/

namespace LoxForms

inductive Value where
  | nil
  | boolean (truth : Bool)
  | number (x : Float)
  | string (text : String)

namespace Value

/-- Numbers are compared as floats: NaN differs from itself, and the two zeros are equal. -/
protected def beq : Value → Value → Bool
  | .nil, .nil => true
  | .boolean left, .boolean right => left == right
  | .number left, .number right => left == right
  | .string left, .string right => left == right
  | _, _ => false

instance : BEq Value := ⟨Value.beq⟩

/-- All values but `nil` and `false` count as true. -/
def isTruthy : Value → Bool
  | .nil => false
  | .boolean truth => truth
  | .number _ | .string _ => true

def booleanText (truth : Bool) : String := if truth then "true" else "false"

def text : Value → String
  | .nil => "nil"
  | .boolean truth => booleanText truth
  | .number x => Number.text Number.plain x
  | .string text => text

def taggedText : Value → String
  | .nil => "Nil"
  | .boolean truth => "Boolean(" ++ booleanText truth ++ ")"
  | .number x => "Number(" ++ Number.text Number.tagged x ++ ")"
  | .string text => "String(" ++ Text.quoted text ++ ")"

end Value

end LoxForms
