import LoxForms.Operation
import LoxForms.Syntax

/-! # Constant folding

An expression has a constant value if nothing in it refers to a binding.  Operands are folded from
left to right, and the first one that fails, or that depends on a binding, settles the outcome;
only an operation whose operands all have values is carried out.
-/

namespace LoxForms

/-- Why an operation has no value. -/
inductive FoldError where
  /-- The operator stands for no operation on that many values. -/
  | invalidOperator (operator : Token)
  /-- The operation is not defined on the value. -/
  | invalidOperand (operator : Token) (value : Value)
  /-- The operation is not defined on the two values. -/
  | invalidOperands (operator : Token) (left right : Value)

namespace FoldError

def operator : FoldError → Token
  | .invalidOperator operator => operator
  | .invalidOperand operator _ => operator
  | .invalidOperands operator _ _ => operator

def message : FoldError → String
  | .invalidOperator operator =>
    s!"Invalid operator: {operator.lexeme}. Line {operator.line}"
  | .invalidOperand operator value =>
    s!"Invalid operand for {operator.lexeme}: {value.taggedText}. Line {operator.line}"
  | .invalidOperands operator left right =>
    s!"Invalid operands for {operator.lexeme}: {left.taggedText} {right.taggedText}. " ++
      s!"Line {operator.line}"

end FoldError

namespace Token

/-- Carries out the operation on one value that the token stands for. -/
def applyUnary (operator : Token) (value : Value) : Except FoldError Value :=
  match Operation.unary? operator.kind value with
  | some result => .ok result
  | none =>
    if Operation.isUnary operator.kind then .error (.invalidOperand operator value)
    else .error (.invalidOperator operator)

/-- Carries out the operation on two values that the token stands for. -/
def applyBinary (operator : Token) (left right : Value) : Except FoldError Value :=
  match Operation.binary? operator.kind left right with
  | some result => .ok result
  | none =>
    if Operation.isBinary operator.kind then .error (.invalidOperands operator left right)
    else .error (.invalidOperator operator)

end Token

namespace Expr

/-- The constant value of an expression, or nothing if it depends on a binding. -/
def fold : Expr → Except FoldError (Option Value)
  | .assign _ _ => .ok none
  | .binary left operator right => do
    let some leftValue ← left.fold | return none
    let some rightValue ← right.fold | return none
    return some (← operator.applyBinary leftValue rightValue)
  | .grouping inner => inner.fold
  | .literal value => .ok (some value)
  | .unary operator operand => do
    let some value ← operand.fold | return none
    return some (← operator.applyUnary value)
  | .reference _ => .ok none

end Expr

end LoxForms
