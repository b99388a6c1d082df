import LoxForms.Syntax

/-! # Nodes in the order of a traversal

The nodes of a tree as a walk from the root meets them: a node before its children, and the
children from left to right.
-/

namespace LoxForms

inductive NodeKind where
  | assign | binary | grouping | literal | unary | reference
  | expression | print | declaration
deriving DecidableEq, Repr

def NodeKind.name : NodeKind → String
  | .assign => "assign"
  | .binary => "binary"
  | .grouping => "grouping"
  | .literal => "literal"
  | .unary => "unary"
  | .reference => "variable"
  | .expression => "expression"
  | .print => "print"
  | .declaration => "var"

namespace Expr

def nodeKind : Expr → NodeKind
  | .assign _ _ => .assign
  | .binary _ _ _ => .binary
  | .grouping _ => .grouping
  | .literal _ => .literal
  | .unary _ _ => .unary
  | .reference _ => .reference

def children : Expr → List Expr
  | .assign _ value => [value]
  | .binary left _ right => [left, right]
  | .grouping inner => [inner]
  | .unary _ operand => [operand]
  | .literal _ | .reference _ => []

def preorder : Expr → List NodeKind
  | .assign _ value => .assign :: value.preorder
  | .binary left _ right => .binary :: (left.preorder ++ right.preorder)
  | .grouping inner => .grouping :: inner.preorder
  | .literal _ => [.literal]
  | .unary _ operand => .unary :: operand.preorder
  | .reference _ => [.reference]

theorem preorder_eq (e : Expr) : e.preorder = e.nodeKind :: e.children.flatMap preorder := by
  cases e <;> simp [preorder, nodeKind, children]

end Expr

namespace Stmt

def nodeKind : Stmt → NodeKind
  | .expression _ => .expression
  | .print _ => .print
  | .declaration _ _ => .declaration

/-- The expression that a statement is built around. -/
def body : Stmt → Expr
  | .expression e => e
  | .print e => e
  | .declaration _ initializer => initializer

def preorder (s : Stmt) : List NodeKind := s.nodeKind :: s.body.preorder

end Stmt

end LoxForms
