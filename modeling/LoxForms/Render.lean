import LoxForms.Fold

/-! # Rendering as parenthesized forms

Every operation becomes a form that begins with its operator; a literal becomes its plain text.  A
reference to a variable becomes nothing at all, so its place in the form stays empty.

With folding, a part of the tree that has a constant value is replaced by the text of that value,
and rendering fails where folding does.
-/

namespace LoxForms

/-- A parenthesized form: its head and its operands, one space before each of them. -/
def form (head : String) (operands : List String) : String :=
  operands.foldl (fun text operand => text ++ " " ++ operand) ("(" ++ head) ++ ")"

namespace Expr

/-- The expression as it stands. -/
def text : Expr → String
  | .assign name value => form "=" [name.lexeme, value.text]
  | .binary left operator right => form operator.lexeme [left.text, right.text]
  | .grouping inner => form "group" [inner.text]
  | .literal value => value.text
  | .unary operator operand => form operator.lexeme [operand.text]
  | .reference _ => ""

/-- The value that is shown in the place of the expression: with folding its constant value, and
without folding none. -/
def replacement? (folding : Bool) (e : Expr) : Except FoldError (Option Value) :=
  if folding then e.fold else .ok none

/-- The expression as a printer shows it. -/
def render (folding : Bool) : Expr → Except FoldError String
  | .assign name value => do
    return form "=" [name.lexeme, ← value.render folding]
  | .binary left operator right => do
    match ← (Expr.binary left operator right).replacement? folding with
    | some value => return value.text
    | none => return form operator.lexeme [← left.render folding, ← right.render folding]
  | .grouping inner => do
    match ← (Expr.grouping inner).replacement? folding with
    | some value => return value.text
    | none => return form "group" [← inner.render folding]
  | .literal value => .ok value.text
  | .unary operator operand => do
    match ← (Expr.unary operator operand).replacement? folding with
    | some value => return value.text
    | none => return form operator.lexeme [← operand.render folding]
  | .reference _ => .ok ""

/-- The expression with its constant parts replaced by their values. -/
def foldedText (e : Expr) : Except FoldError String := e.render true

end Expr

namespace Stmt

def text : Stmt → String
  | .expression e => form "expr" [e.text]
  | .print e => form "print" [e.text]
  | .declaration name initializer => form "var" [name.lexeme, initializer.text]

/-- The statement as a printer shows it. -/
def render (folding : Bool) : Stmt → Except FoldError String
  | .expression e => do return form "expr" [← e.render folding]
  | .print e => do return form "print" [← e.render folding]
  | .declaration name initializer => do
    return form "var" [name.lexeme, ← initializer.render folding]

/-- The statement with its constant parts replaced by their values. -/
def foldedText (s : Stmt) : Except FoldError String := s.render true

end Stmt

namespace Program

/-- The statements as they stand, one line for each. -/
def lines (program : Program) : List String := program.map Stmt.text

/-- The statements as a printer without folding shows them.  The first one that cannot be shown
ends the run. -/
def render (program : Program) : Except FoldError (List String) :=
  program.mapM (Stmt.render false)

end Program

end LoxForms
