import LoxForms.Proofs.Rendering

/-! # Folding as a rewrite of the tree

A printer that folds decides at every node anew whether to show a value.  What it shows is the text
of one tree, in which every part that has a constant value has been replaced by a literal:

* the replacement changes no constant value, so it is complete after one pass;
* where nothing fails to fold, only literals and nodes without a constant value are left.
-/

namespace LoxForms

namespace Expr

/-! ## The simplified tree -/

/-- The literal of the constant value, and another expression if there is no constant value. -/
def constantOr (e other : Expr) : Expr :=
  match e.fold with
  | .ok (some value) => .literal value
  | _ => other

/-- The expression with its constant parts replaced by literals. -/
def simplified : Expr → Expr
  | .assign name value => .assign name value.simplified
  | .binary left operator right =>
    (Expr.binary left operator right).constantOr
      (.binary left.simplified operator right.simplified)
  | .grouping inner => (Expr.grouping inner).constantOr (.grouping inner.simplified)
  | .literal value => .literal value
  | .unary operator operand =>
    (Expr.unary operator operand).constantOr (.unary operator operand.simplified)
  | .reference name => .reference name

theorem constantOr_of_constant {e : Expr} {value : Value} (constant : e.fold = .ok (some value))
    (other : Expr) : e.constantOr other = .literal value := by
  simp [constantOr, constant]

theorem constantOr_of_not_constant {e : Expr} (varies : ∀ value, e.fold ≠ .ok (some value))
    (other : Expr) : e.constantOr other = other := by
  unfold constantOr
  split
  next value constant => exact absurd constant (varies value)
  next => rfl

/-- A node becomes the literal of its value or keeps its place above simplified children. -/
theorem simplified_eq (e : Expr) : e.simplified = e.constantOr (e.mapChildren simplified) := by
  cases e <;> rfl

theorem simplified_of_constant {e : Expr} {value : Value}
    (constant : e.fold = .ok (some value)) : e.simplified = .literal value := by
  rw [simplified_eq, constantOr_of_constant constant]

theorem simplified_of_not_constant {e : Expr} (varies : ∀ value, e.fold ≠ .ok (some value)) :
    e.simplified = e.mapChildren simplified := by
  rw [simplified_eq, constantOr_of_not_constant varies]

/-! ## Constant values are kept -/

/-- A node sees no more of its children than their constant values. -/
theorem fold_mapChildren {f : Expr → Expr} {e : Expr}
    (same : ∀ child ∈ e.children, (f child).fold = child.fold) :
    (e.mapChildren f).fold = e.fold := by
  cases e <;> simp_all [mapChildren, children, fold]

theorem fold_simplified (e : Expr) : e.simplified.fold = e.fold := by
  induction e using children_induction with
  | node e ih =>
    by_cases constant : ∃ value, e.fold = .ok (some value)
    · obtain ⟨value, constant⟩ := constant
      rw [simplified_of_constant constant, constant, fold]
    · rw [simplified_of_not_constant (not_exists.1 constant), fold_mapChildren ih]

theorem simplified_simplified (e : Expr) : e.simplified.simplified = e.simplified := by
  induction e using children_induction with
  | node e ih =>
    by_cases constant : ∃ value, e.fold = .ok (some value)
    · obtain ⟨value, constant⟩ := constant
      rw [simplified_of_constant constant, simplified]
    · have varies := not_exists.1 constant
      have stillVaries : ∀ value, e.simplified.fold ≠ .ok (some value) := by
        simpa only [fold_simplified] using varies
      rw [simplified_of_not_constant stillVaries, simplified_of_not_constant varies]
      apply mapChildren_eq_self
      simpa using ih

/-! ## Trees in which nothing fails to fold -/

/-- No subexpression folds to an error. -/
def FoldsThroughout (e : Expr) : Prop := ∀ node ∈ e.nodes, ∃ constant, node.fold = .ok constant

/-- Every subexpression is a literal or has no constant value. -/
def IsNormal (e : Expr) : Prop :=
  ∀ node ∈ e.nodes, (∃ value, node = .literal value) ∨ node.fold = .ok none

theorem FoldsThroughout.root {e : Expr} (folds : e.FoldsThroughout) :
    ∃ constant, e.fold = .ok constant :=
  folds e e.self_mem_nodes

theorem FoldsThroughout.child {e child : Expr} (folds : e.FoldsThroughout)
    (member : child ∈ e.children) : child.FoldsThroughout :=
  fun node below => folds node (mem_nodes_iff.2 (.inr ⟨child, member, below⟩))

theorem IsNormal.foldsThroughout {e : Expr} (normal : e.IsNormal) : e.FoldsThroughout := by
  intro node member
  rcases normal node member with ⟨value, rfl⟩ | varies
  · exact ⟨some value, rfl⟩
  · exact ⟨none, varies⟩

theorem isNormal_literal (value : Value) : (Expr.literal value).IsNormal := by
  intro node member
  exact .inl ⟨value, by simpa [nodes] using member⟩

theorem isNormal_simplified {e : Expr} (folds : e.FoldsThroughout) : e.simplified.IsNormal := by
  induction e using children_induction with
  | node e ih =>
    obtain ⟨constant, folded⟩ := folds.root
    cases constant with
    | some value =>
      rw [simplified_of_constant folded]
      exact isNormal_literal value
    | none =>
      intro node member
      rcases mem_nodes_iff.1 member with rfl | ⟨child, isChild, below⟩
      · exact .inr ((fold_simplified e).trans folded)
      · rw [simplified_of_not_constant (by simp [folded]), children_mapChildren] at isChild
        obtain ⟨original, isOriginal, rfl⟩ := List.mem_map.1 isChild
        exact ih original isOriginal (folds.child isOriginal) node below

/-! ## Rendering -/

theorem foldedText_of_constant {e : Expr} {value : Value}
    (constant : e.fold = .ok (some value)) : e.foldedText = .ok value.text := by
  cases e with
  | literal own =>
    simp only [fold, Except.ok.injEq, Option.some.injEq] at constant
    rw [foldedText, render, constant]
  | binary _ _ _ | grouping _ | unary _ _ =>
    rw [foldedText, render, replacement?_folding, constant]
    rfl
  | assign _ _ | reference _ => cases constant

theorem foldedText_eq_text_simplified {e : Expr} (folds : e.FoldsThroughout) :
    e.foldedText = .ok e.simplified.text := by
  induction e using children_induction with
  | node e ih =>
    obtain ⟨constant, folded⟩ := folds.root
    cases constant with
    | some value =>
      rw [foldedText_of_constant folded, simplified_of_constant folded, text]
    | none =>
      rw [simplified_of_not_constant (by simp [folded])]
      exact render_mapChildren folded fun child member =>
        ih child member (folds.child member)

/-- A second pass finds nothing left to fold. -/
theorem foldedText_simplified {e : Expr} (folds : e.FoldsThroughout) :
    e.simplified.foldedText = .ok e.simplified.text := by
  rw [foldedText_eq_text_simplified (isNormal_simplified folds).foldsThroughout,
    simplified_simplified]

end Expr

namespace Stmt

/-- The statement around the simplified expression. -/
def simplified (s : Stmt) : Stmt := s.mapBody Expr.simplified

theorem simplified_simplified (s : Stmt) : s.simplified.simplified = s.simplified := by
  cases s <;> simp [simplified, mapBody, Expr.simplified_simplified]

end Stmt

/-- What a printer that folds shows is the text of the simplified tree, and that tree is complete: it
is its own simplification, only literals in it have constant values, and folding shows no other
text of it. -/
theorem render_folding_eq_render_simplified :
    (∀ e : Expr, e.FoldsThroughout →
      (∃ text, e.render true = .ok text ∧ e.simplified.render false = .ok text ∧
        e.simplified.render true = .ok text) ∧
      e.simplified.simplified = e.simplified ∧ e.simplified.IsNormal) ∧
    (∀ s : Stmt, s.body.FoldsThroughout →
      (∃ text, s.render true = .ok text ∧ s.simplified.render false = .ok text ∧
        s.simplified.render true = .ok text) ∧
      s.simplified.simplified = s.simplified ∧ s.simplified.body.IsNormal) := by
  constructor
  · intro e folds
    refine ⟨⟨e.simplified.text, ?_, e.simplified.render_plain, ?_⟩, e.simplified_simplified, ?_⟩
    · exact Expr.foldedText_eq_text_simplified folds
    · exact Expr.foldedText_simplified folds
    · exact Expr.isNormal_simplified folds
  · intro s folds
    refine ⟨⟨s.simplified.text, ?_, s.simplified.render_plain, ?_⟩, s.simplified_simplified, ?_⟩
    · exact Stmt.render_mapBody (Expr.foldedText_eq_text_simplified folds)
    · have shown : s.simplified.body.foldedText = .ok (s.simplified.body.simplified).text := by
        rw [Stmt.simplified, Stmt.body_mapBody, Expr.foldedText_simplified folds,
          Expr.simplified_simplified]
      have again := Stmt.render_mapBody shown
      rwa [← Stmt.simplified, s.simplified_simplified] at again
    · rw [Stmt.simplified, Stmt.body_mapBody]
      exact Expr.isNormal_simplified folds

/-- The product of a variable and a sum of two numbers. -/
def Expr.variableTimesSum : Expr :=
  .binary (.reference ⟨.identifier, "x", none, 1⟩) ⟨.star, "*", none, 1⟩
    (.grouping (.binary (.literal (.number 1)) ⟨.plus, "+", none, 1⟩ (.literal (.number 2))))

/-- The constant factor becomes its value, and the variable leaves a gap. -/
theorem render_folding_variableTimesSum :
    Expr.variableTimesSum.FoldsThroughout ∧
      Expr.variableTimesSum.render true = .ok "(*  3)" ∧
      (Stmt.print Expr.variableTimesSum).render true = .ok "(print (*  3))" := by
  have folds : Expr.variableTimesSum.FoldsThroughout := by
    intro node member
    simp only [Expr.variableTimesSum, Expr.nodes, List.cons_append, List.nil_append,
      List.mem_cons, List.not_mem_nil, or_false] at member
    rcases member with rfl | rfl | rfl | rfl | rfl | rfl <;> exact ⟨_, rfl⟩
  have text : Expr.variableTimesSum.simplified.text = "(*  3)" := by decide +kernel
  have line : (Stmt.print Expr.variableTimesSum).simplified.text = "(print (*  3))" := by
    decide +kernel
  obtain ⟨⟨_, folded, plain, _⟩, _⟩ := render_folding_eq_render_simplified.1 _ folds
  obtain ⟨⟨_, foldedLine, plainLine, _⟩, _⟩ :=
    render_folding_eq_render_simplified.2 (.print Expr.variableTimesSum) folds
  refine ⟨folds, ?_, ?_⟩
  · rw [folded, ← plain, ← text]
    rfl
  · rw [foldedLine, ← plainLine, ← line]
    rfl

end LoxForms
