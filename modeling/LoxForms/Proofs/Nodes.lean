import Mathlib.Data.List.Basic
import LoxForms.Traversal

/-! # Subexpressions

`nodes` lists the subexpressions of a tree in the order of a traversal, the whole tree first.  What
is proved of every tree from its children alone, without naming the six shapes, goes through
`children_induction`; `mapChildren` is the matching rewrite of one layer.
-/

namespace LoxForms

namespace Expr

theorem children_induction {motive : Expr → Prop}
    (node : ∀ e : Expr, (∀ child ∈ e.children, motive child) → motive e) (e : Expr) :
    motive e := by
  induction e with
  | assign name value ih => exact node _ (by simpa [children] using ih)
  | binary left operator right leftHypothesis rightHypothesis =>
    exact node _ (by simp [children, leftHypothesis, rightHypothesis])
  | grouping inner ih => exact node _ (by simpa [children] using ih)
  | literal value => exact node _ (by simp [children])
  | unary operator operand ih => exact node _ (by simpa [children] using ih)
  | reference name => exact node _ (by simp [children])

/-- Every subexpression, the expression itself first. -/
def nodes : Expr → List Expr
  | .assign name value => .assign name value :: value.nodes
  | .binary left operator right => .binary left operator right :: (left.nodes ++ right.nodes)
  | .grouping inner => .grouping inner :: inner.nodes
  | .literal value => [.literal value]
  | .unary operator operand => .unary operator operand :: operand.nodes
  | .reference name => [.reference name]

theorem nodes_eq (e : Expr) : e.nodes = e :: e.children.flatMap nodes := by
  cases e <;> simp [nodes, children]

theorem mem_nodes_iff {e node : Expr} :
    node ∈ e.nodes ↔ node = e ∨ ∃ child ∈ e.children, node ∈ child.nodes := by
  rw [nodes_eq, List.mem_cons, List.mem_flatMap]

theorem self_mem_nodes (e : Expr) : e ∈ e.nodes :=
  mem_nodes_iff.2 (.inl rfl)

/-- The kinds of the subexpressions are what a traversal visits. -/
theorem map_nodeKind_nodes (e : Expr) : e.nodes.map nodeKind = e.preorder := by
  induction e using children_induction with
  | node e ih =>
    rw [nodes_eq, preorder_eq, List.map_cons, List.map_flatMap]
    congr 1
    exact List.flatMap_congr ih

/-- The node with its children replaced. -/
def mapChildren (f : Expr → Expr) : Expr → Expr
  | .assign name value => .assign name (f value)
  | .binary left operator right => .binary (f left) operator (f right)
  | .grouping inner => .grouping (f inner)
  | .literal value => .literal value
  | .unary operator operand => .unary operator (f operand)
  | .reference name => .reference name

@[simp] theorem children_mapChildren (f : Expr → Expr) (e : Expr) :
    (e.mapChildren f).children = e.children.map f := by
  cases e <;> rfl

theorem mapChildren_eq_self {f : Expr → Expr} {e : Expr}
    (same : ∀ child ∈ e.children, f child = child) : e.mapChildren f = e := by
  cases e <;> simp_all [mapChildren, children]

end Expr

/-- The statement around another expression. -/
def Stmt.mapBody (f : Expr → Expr) : Stmt → Stmt
  | .expression e => .expression (f e)
  | .print e => .print (f e)
  | .declaration name initializer => .declaration name (f initializer)

@[simp] theorem Stmt.body_mapBody (f : Expr → Expr) (s : Stmt) :
    (s.mapBody f).body = f s.body := by
  cases s <;> rfl

end LoxForms
