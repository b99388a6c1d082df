import LoxForms.Proofs.Nodes
import LoxForms.Render

/-! # Rendering a node

At every node a printer asks for a value to show in its place.  Where there is none, the node keeps its
form above what is shown of its children (`render_mapChildren`).  A printer that does not fold never
gets a value and never a failure, so what it shows is the tree as it stands.
-/

namespace LoxForms

namespace Expr

@[simp] theorem replacement?_folding (e : Expr) : e.replacement? true = e.fold := rfl

@[simp] theorem replacement?_plain (e : Expr) : e.replacement? false = .ok none := rfl

/-- A node that is not replaced is shown as it stands, above what is shown of its children. -/
theorem render_mapChildren {folding : Bool} {e : Expr} {f : Expr → Expr}
    (kept : e.replacement? folding = .ok none)
    (shown : ∀ child ∈ e.children, child.render folding = .ok (f child).text) :
    e.render folding = .ok (e.mapChildren f).text := by
  cases e with
  | literal _ | reference _ => rfl
  | assign _ _ | binary _ _ _ | grouping _ | unary _ _ =>
    simp only [children, List.forall_mem_cons] at shown
    simp only [render, kept, shown, mapChildren, text]
    rfl

theorem render_plain (e : Expr) : e.render false = .ok e.text := by
  induction e using children_induction with
  | node e ih =>
    have shown : e.render false = .ok (e.mapChildren id).text :=
      render_mapChildren e.replacement?_plain ih
    have unchanged : e.mapChildren id = e := mapChildren_eq_self fun _ _ => rfl
    rw [shown, unchanged]

end Expr

/-- A statement shows its expression in one place. -/
theorem Stmt.render_mapBody {folding : Bool} {s : Stmt} {f : Expr → Expr}
    (shown : s.body.render folding = .ok (f s.body).text) :
    s.render folding = .ok (s.mapBody f).text := by
  cases s with
  | expression e | print e | declaration _ e =>
    rw [body] at shown
    simp only [render, shown, mapBody, text]
    rfl

theorem Stmt.render_plain (s : Stmt) : s.render false = .ok s.text := by
  have shown : s.render false = .ok (s.mapBody id).text := render_mapBody s.body.render_plain
  have unchanged : s.mapBody id = s := by cases s <;> rfl
  rw [shown, unchanged]

/-- No statement ends the run early. -/
theorem Program.render_eq_lines (program : Program) : program.render = .ok program.lines := by
  unfold render lines
  induction program with
  | nil => rfl
  | cons s others ih =>
    rw [List.mapM_cons, s.render_plain, ih]
    rfl

end LoxForms
