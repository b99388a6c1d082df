import LoxForms.Atom
import LoxForms.Operator
import LoxForms.Reading.Progress
import LoxForms.Syntax

/-! # Reading expressions

An atom is a literal.  A form is an assignment, `= NAME VALUE`, a grouping, `group INNER`, or an
operation, an operator with one or two operands.  The operands of a form are read first; whether
its head takes them is decided at its closing parenthesis.
-/

namespace LoxForms.Reading

/-- The name that a piece must be, where one is required. -/
def identifier (located : LocatedPiece) : Except ReadError Token :=
  match located.piece with
  | .atom text =>
    if Atom.isIdentifier text then .ok (Token.identifier text located.line)
    else .error (.expectedIdentifier text located.line)
  | .opening => .error (.expectedIdentifier "(" located.line)
  | .closing => .error (.unexpectedClose located.line)

/-! ## Forms other than assignments -/

def isFormHead (head : String) : Bool :=
  head == "group" || (Operator.unary? head).isSome || (Operator.binary? head).isSome

def formExpr? (head : String) (line : UInt32) : List Expr → Option Expr
  | [operand] =>
    if head = "group" then some (.grouping operand)
    else (Operator.unary? head).map fun kind => .unary (Token.operator kind head line) operand
  | [left, right] =>
    (Operator.binary? head).map fun kind => .binary left (Token.operator kind head line) right
  | _ => none

/-- The expression that a form stands for, given the head, its line, and the operands. -/
def formExpr (head : String) (line : UInt32) (operands : List Expr) : Except ReadError Expr :=
  match formExpr? head line operands with
  | some e => .ok e
  | none =>
    if isFormHead head then .error (.wrongArity head operands.length line)
    else .error (.unknownForm head line)

/-! ## The reader -/

/-- A form that is still open around the expression that is being read. -/
inductive Frame where
  /-- An assignment whose value is being read. -/
  | value (name : Token) (line : UInt32)
  /-- Any other form, with the operands that have been read, the last one first. -/
  | operands (head : String) (line : UInt32) (reversed : List Expr)

/-- What the next piece has to be, inside the frames, the innermost one first. -/
inductive ExprState where
  /-- An expression, or the end of the innermost form if that collects operands. -/
  | expression (frames : List Frame)
  | formHead (frames : List Frame)
  /-- The name in an assignment. -/
  | target (line : UInt32) (frames : List Frame)
  /-- The end of an assignment. -/
  | close (name : Token) (value : Expr) (line : UInt32) (frames : List Frame)

namespace ExprState

def start : ExprState := .expression []

/-- Hands an expression that has been read to the innermost frame. -/
def deliver (e : Expr) : List Frame → Progress ExprState Expr
  | [] => .complete e
  | .value name line :: frames => .pending (.close name e line frames)
  | .operands head line reversed :: frames =>
    .pending (.expression (.operands head line (e :: reversed) :: frames))

def step (state : ExprState) (located : LocatedPiece) :
    Except ReadError (Progress ExprState Expr) :=
  match state, located.piece with
  | .expression frames, .atom text => .ok (deliver (.literal (Atom.value text)) frames)
  | .expression frames, .opening => .ok (.pending (.formHead frames))
  | .expression (.operands head line reversed :: frames), .closing => do
    return deliver (← formExpr head line reversed.reverse) frames
  | .expression _, .closing => .error (.unexpectedClose located.line)
  | .formHead frames, .atom text =>
    if text = "=" then .ok (.pending (.target located.line frames))
    else .ok (.pending (.expression (.operands text located.line [] :: frames)))
  | .formHead _, _ => .error (.missingHead located.line)
  | .target line frames, _ => do
    return .pending (.expression (.value (← identifier located) line :: frames))
  | .close name value _ frames, .closing => .ok (deliver (.assign name value) frames)
  | .close _ _ line _, _ => .error (.wrongArity "=" 3 line)

end ExprState

/-- The expression at the front of the pieces, and the pieces after it. -/
def expression (pieces : List LocatedPiece) : Except ReadError (Expr × List LocatedPiece) :=
  consume ExprState.step ExprState.start pieces

end LoxForms.Reading
