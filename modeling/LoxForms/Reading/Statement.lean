import LoxForms.Reading.Expression

/-! # Reading statements

A statement is one of the forms `expr BODY`, `print BODY` and `var NAME BODY`, and a program is
statements until the pieces end.  An unknown head is an error at once.
-/

namespace LoxForms.Reading

/-- What a statement has besides its body. -/
inductive Shape where
  | expression
  | print
  | declaration (name : Token)

namespace Shape

def head : Shape → String
  | .expression => "expr"
  | .print => "print"
  | .declaration _ => "var"

/-- The number of operands, the name included. -/
def arity : Shape → Nat
  | .expression => 1
  | .print => 1
  | .declaration _ => 2

def withBody : Shape → Expr → Stmt
  | .expression, body => .expression body
  | .print, body => .print body
  | .declaration name, body => .declaration name body

end Shape

/-- What the next piece has to be; the line is that of the head of the statement. -/
inductive StmtState where
  | opening
  | formHead
  | target (line : UInt32)
  | body (shape : Shape) (line : UInt32) (inner : ExprState)
  | close (shape : Shape) (line : UInt32) (statement : Stmt)

namespace StmtState

def step (state : StmtState) (located : LocatedPiece) :
    Except ReadError (Progress StmtState Stmt) :=
  match state, located.piece with
  | .opening, .opening => .ok (.pending .formHead)
  | .opening, .closing => .error (.unexpectedClose located.line)
  | .opening, .atom text => .error (.expectedForm text located.line)
  | .formHead, .atom "expr" => .ok (.pending (.body .expression located.line .start))
  | .formHead, .atom "print" => .ok (.pending (.body .print located.line .start))
  | .formHead, .atom "var" => .ok (.pending (.target located.line))
  | .formHead, .atom text => .error (.unknownForm text located.line)
  | .formHead, _ => .error (.missingHead located.line)
  | .target line, _ => do
    return .pending (.body (.declaration (← identifier located)) line .start)
  | .body shape line inner, _ => do
    match ← inner.step located with
    | .pending next => return .pending (.body shape line next)
    | .complete e => return .pending (.close shape line (shape.withBody e))
  | .close _ _ statement, .closing => .ok (.complete statement)
  | .close shape line _, _ => .error (.wrongArity shape.head (shape.arity + 1) line)

end StmtState

/-- The statement at the front of the pieces, and the pieces after it. -/
def statement (pieces : List LocatedPiece) : Except ReadError (Stmt × List LocatedPiece) :=
  consume StmtState.step .opening pieces

/-- The statements that the pieces consist of. -/
def program (pieces : List LocatedPiece) : Except ReadError Program :=
  if pieces.isEmpty then .ok []
  else
    match _ : statement pieces with
    | .error failure => .error failure
    | .ok (first, rest) => (program rest).map (first :: ·)
termination_by pieces.length
decreasing_by exact consume_shorter (by assumption)

end LoxForms.Reading
