import LoxForms.Token

/-! # Operations on values

The operations that token kinds stand for.  Equality takes any two values, addition two numbers
or two strings, and the other operations on two values take numbers.  Arithmetic is that of
floats, so a division by zero has a value.
-/

namespace LoxForms.Operation

def isUnary : TokenKind → Bool
  | .minus | .bang => true
  | _ => false

def isBinary : TokenKind → Bool
  | .equalEqual | .bangEqual | .greater | .greaterEqual | .less | .lessEqual
  | .minus | .slash | .star | .plus => true
  | _ => false

/-- The value of the operation on one value, if there is such an operation and the value fits. -/
def unary? : TokenKind → Value → Option Value
  | .minus, .number x => some (.number (-x))
  | .bang, value => some (.boolean (!value.isTruthy))
  | _, _ => none

/-- The value of the operation on two numbers that is not defined on all values. -/
def numeric? (kind : TokenKind) (left right : Float) : Option Value :=
  match kind with
  | .greater => some (.boolean (decide (left > right)))
  | .greaterEqual => some (.boolean (decide (left ≥ right)))
  | .less => some (.boolean (decide (left < right)))
  | .lessEqual => some (.boolean (decide (left ≤ right)))
  | .minus => some (.number (left - right))
  | .slash => some (.number (left / right))
  | .star => some (.number (left * right))
  | .plus => some (.number (left + right))
  | _ => none

/-- The value of the operation on two values, if there is such an operation and the values fit. -/
def binary? (kind : TokenKind) (left right : Value) : Option Value :=
  match kind, left, right with
  | .equalEqual, left, right => some (.boolean (left == right))
  | .bangEqual, left, right => some (.boolean (left != right))
  | .plus, .string left, .string right => some (.string (left ++ right))
  | kind, .number left, .number right => numeric? kind left right
  | _, _, _ => none

end LoxForms.Operation
