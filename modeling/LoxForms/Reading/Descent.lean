import LoxForms.Reading.Statement

/-! # Reading with a cursor

The readers as procedures that share a cursor, the index of the next piece, and call each other: a
form reads an expression for each of its operands, until it sees the parenthesis that closes it.  No
argument of them gets smaller with a call, so nothing in the definitions says that a call returns;
one that does not has no outcome.

A cursor is moved by `advance` alone, and a procedure that fails leaves it where it is by then.
-/

namespace LoxForms.Reading

/-- A procedure.  It may not return; if it does, with a result or an error, it leaves a cursor. -/
abbrev Descent (α : Type) := ExceptT ReadError (StateT Nat Option) α

/-- The outcome of a call that begins at the cursor, and where it leaves the cursor. -/
def Descent.call {α : Type} (procedure : Descent α) (cursor : Nat) :
    Option (Except ReadError α × Nat) :=
  procedure.run.run cursor

/-- The pieces that the procedures read.  The cursor is an index of them. -/
abbrev Pieces := List LocatedPiece

namespace Pieces

/-! ## Single pieces -/

def peek (pieces : Pieces) : Descent (Option LocatedPiece) := do return pieces[← get]?

def advance (pieces : Pieces) : Descent LocatedPiece := do
  let some located ← pieces.peek | throw .prematureTermination
  modify (· + 1)
  return located

/-- Moves on and checks the piece, in this order. -/
def take {α : Type} (pieces : Pieces) (check : LocatedPiece → Except ReadError α) : Descent α := do
  let located ← pieces.advance
  MonadExcept.ofExcept (check located)

def opening (pieces : Pieces) : Descent Unit :=
  pieces.take fun located =>
    match located.piece with
    | .opening => .ok ()
    | .closing => .error (.unexpectedClose located.line)
    | .atom text => .error (.expectedForm text located.line)

/-- The end of a form whose number of operands is known, given those that have been read. -/
def closing (pieces : Pieces) (head : String) (found : Nat) (line : UInt32) : Descent Unit :=
  pieces.take fun located =>
    match located.piece with
    | .closing => .ok ()
    | _ => .error (.wrongArity head (found + 1) line)

def formHead (pieces : Pieces) : Descent (String × UInt32) :=
  pieces.take fun located =>
    match located.piece with
    | .atom text => .ok (text, located.line)
    | _ => .error (.missingHead located.line)

def target (pieces : Pieces) : Descent Token := pieces.take identifier

/-! ## Expressions -/

mutual

def expression (pieces : Pieces) : Descent Expr := do
  let located ← pieces.advance
  match located.piece with
  | .atom text => return .literal (Atom.value text)
  | .closing => throw (.unexpectedClose located.line)
  | .opening => pieces |>.form
partial_fixpoint

/-- What is left of a form behind its opening parenthesis. -/
def form (pieces : Pieces) : Descent Expr := do
  let (head, line) ← pieces.formHead
  if head = "=" then
    let name ← pieces.target
    let value ← pieces |>.expression
    pieces.closing head 2 line
    return .assign name value
  else
    let all ← pieces |>.operands []
    pieces.take fun _ => formExpr head line all
partial_fixpoint

/-- The operands before the next closing parenthesis, behind those that have been read.  At the end
of the pieces it is the next operand that fails. -/
def operands (pieces : Pieces) (read : List Expr) : Descent (List Expr) := do
  let next ← pieces.peek
  if next.map (·.piece) = some .closing then return read
  else
    let operand ← pieces |>.expression
    pieces |>.operands (read ++ [operand])
partial_fixpoint

end

/-! ## Statements -/

/-- What a statement has before its body, behind its head. -/
def shape (pieces : Pieces) (head : String) (line : UInt32) : Descent Shape :=
  match head with
  | "expr" => return .expression
  | "print" => return .print
  | "var" => return .declaration (← pieces.target)
  | _ => throw (.unknownForm head line)

def statement (pieces : Pieces) : Descent Stmt := do
  pieces.opening
  let (head, line) ← pieces.formHead
  let shape ← pieces.shape head line
  let body ← pieces.expression
  pieces.closing shape.head shape.arity line
  return shape.withBody body

/-- The statements up to the end of the pieces, behind those that have been read. -/
def statements (pieces : Pieces) (done : Program) : Descent Program := do
  let some _ ← pieces.peek | return done
  let s ← pieces.statement
  pieces |>.statements (done ++ [s])
partial_fixpoint

def program (pieces : Pieces) : Descent Program := pieces.statements []

end Pieces

end LoxForms.Reading
