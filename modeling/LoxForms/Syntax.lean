import LoxForms.Token

/-! # Syntax trees -/

namespace LoxForms

inductive Expr where
  | assign (name : Token) (value : Expr)
  | binary (left : Expr) (operator : Token) (right : Expr)
  | grouping (inner : Expr)
  | literal (value : Value)
  | unary (operator : Token) (operand : Expr)
  | reference (name : Token)
deriving BEq

inductive Stmt where
  | expression (e : Expr)
  | print (e : Expr)
  | declaration (name : Token) (initializer : Expr)
deriving BEq

/-- A variable declared without an initializer starts as `nil`. -/
def Stmt.uninitialized (name : Token) : Stmt := .declaration name (.literal .nil)

abbrev Program := List Stmt

end LoxForms
