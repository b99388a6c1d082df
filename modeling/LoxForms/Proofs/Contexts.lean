import Mathlib.Data.List.Induction
import LoxForms.Proofs.Folding
import LoxForms.Proofs.Simplified

/-! # Expressions in context

A context is an expression with a hole in the place of one subexpression.  Every node on the way from
the root to the hole folds anew what is below it, but of the filler it sees no more than what that
folds to and what is shown of it, so two expressions that agree in both cannot be told apart from
outside (`interchangeable_iff`).  A constant part and its value agree in both.
-/

namespace LoxForms

namespace Expr

/-- A node with a hole in the place of one of its children. -/
inductive Layer where
  | assign (name : Token)
  | left (operator : Token) (right : Expr)
  | right (left : Expr) (operator : Token)
  | grouping
  | unary (operator : Token)

def Layer.fill (filler : Expr) : Layer → Expr
  | .assign name => .assign name filler
  | .left operator other => .binary filler operator other
  | .right other operator => .binary other operator filler
  | .grouping => .grouping filler
  | .unary operator => .unary operator filler

/-- An expression with a hole, given by the nodes around the hole, the innermost one first. -/
abbrev Context := List Layer

def Context.fill (context : Context) (filler : Expr) : Expr := context.foldl Layer.fill filler

theorem Context.fill_append_layer (context : Context) (layer : Layer) (filler : Expr) :
    Context.fill (context ++ [layer]) filler = layer.fill (context.fill filler) := by
  simp [fill]

/-! ## Holes and subexpressions -/

theorem mem_children_iff_exists_fill {e child : Expr} :
    child ∈ e.children ↔ ∃ layer : Layer, layer.fill child = e := by
  constructor
  · intro member
    cases e with
    | assign name value =>
      obtain rfl := List.mem_singleton.1 member
      exact ⟨.assign name, rfl⟩
    | binary left operator right =>
      rcases List.mem_pair.1 member with rfl | rfl
      · exact ⟨.left operator right, rfl⟩
      · exact ⟨.right left operator, rfl⟩
    | grouping inner =>
      obtain rfl := List.mem_singleton.1 member
      exact ⟨.grouping, rfl⟩
    | unary operator operand =>
      obtain rfl := List.mem_singleton.1 member
      exact ⟨.unary operator, rfl⟩
    | literal _ | reference _ => cases member
  · rintro ⟨layer, rfl⟩
    cases layer <;> simp [Layer.fill, children]

/-- What stands in the hole of a context are the subexpressions of the whole, at any depth. -/
theorem mem_nodes_iff_exists_fill {e node : Expr} :
    node ∈ e.nodes ↔ ∃ context : Context, context.fill node = e := by
  constructor
  · intro member
    induction e using children_induction with
    | node e ih =>
      rcases mem_nodes_iff.1 member with rfl | ⟨child, isChild, below⟩
      · exact ⟨[], rfl⟩
      · obtain ⟨layer, rfl⟩ := mem_children_iff_exists_fill.1 isChild
        obtain ⟨context, rfl⟩ := ih child isChild below
        exact ⟨context ++ [layer], context.fill_append_layer layer node⟩
  · rintro ⟨context, rfl⟩
    induction context using List.reverseRecOn with
    | nil => exact node.self_mem_nodes
    | append_singleton context layer ih =>
      rw [Context.fill_append_layer]
      exact mem_nodes_iff.2 (.inr ⟨_, mem_children_iff_exists_fill.2 ⟨layer, rfl⟩, ih⟩)

/-! ## What a context sees of its filler -/

section

variable {e other : Expr}

theorem Layer.fold_fill (layer : Layer) (same : e.fold = other.fold) :
    (layer.fill e).fold = (layer.fill other).fold := by
  cases layer with
  | assign name => rfl
  | left operator right | right left operator => rw [fill, fill, fold_binary, fold_binary, same]
  | grouping => exact same
  | unary operator => rw [fill, fill, fold_unary, fold_unary, same]

/-- A node decides by what the filler folds to, and falls back to what is shown of it. -/
theorem Layer.foldedText_fill (layer : Layer) (same : e.fold = other.fold)
    (shown : e.foldedText = other.foldedText) :
    (layer.fill e).foldedText = (layer.fill other).foldedText := by
  have folds := layer.fold_fill same
  unfold foldedText at shown ⊢
  cases layer with
  | assign name => rw [fill, fill, render, render, shown]
  | left _ _ | right _ _ | grouping | unary _ =>
    simp only [fill] at folds
    simp only [fill, render, replacement?_folding, folds, shown]

theorem Context.fold_fill (context : Context) (same : e.fold = other.fold) :
    (context.fill e).fold = (context.fill other).fold := by
  induction context generalizing e other with
  | nil => exact same
  | cons layer context ih => exact ih (layer.fold_fill same)

theorem Context.foldedText_fill (context : Context) (same : e.fold = other.fold)
    (shown : e.foldedText = other.foldedText) :
    (context.fill e).foldedText = (context.fill other).foldedText := by
  induction context generalizing e other with
  | nil => exact shown
  | cons layer context ih => exact ih (layer.fold_fill same) (layer.foldedText_fill same shown)

/-- No context tells the two expressions apart, by folding or by what a folding printer shows. -/
def Interchangeable (e other : Expr) : Prop :=
  ∀ context : Context, (context.fill e).fold = (context.fill other).fold ∧
    (context.fill e).render true = (context.fill other).render true

theorem interchangeable_iff :
    Interchangeable e other ↔ e.fold = other.fold ∧ e.foldedText = other.foldedText := by
  constructor
  · intro interchangeable
    exact interchangeable []
  · rintro ⟨same, shown⟩ context
    exact ⟨context.fold_fill same, context.foldedText_fill same shown⟩

theorem interchangeable_literal {value : Value} (constant : e.fold = .ok (some value)) :
    Interchangeable e (.literal value) := by
  refine interchangeable_iff.2 ⟨constant, ?_⟩
  rw [foldedText_of_constant constant]
  rfl

end

end Expr

/-- A constant part of an expression is as good as its value: wherever it stands, in operands, in
groupings or in the values of assignments, its literal folds and is shown alike, text or failure.
Around any part, constant or not, a grouping changes nothing for folding.  The holes of contexts are
the places of all subexpressions. -/
theorem constant_interchangeable (e : Expr) :
    (∀ value, e.fold = .ok (some value) →
      ∀ context : Expr.Context, (context.fill e).fold = (context.fill (.literal value)).fold ∧
        (context.fill e).render true = (context.fill (.literal value)).render true) ∧
    (∀ context : Expr.Context, (context.fill e).fold = (context.fill (.grouping e)).fold) ∧
    ∀ whole : Expr, e ∈ whole.nodes ↔ ∃ context : Expr.Context, context.fill e = whole := by
  refine ⟨fun value constant => ?_, fun context => ?_, fun whole => ?_⟩
  · exact Expr.interchangeable_literal constant
  · exact context.fold_fill rfl
  · exact Expr.mem_nodes_iff_exists_fill

/-- Two words, joined inside a grouping. -/
def Expr.joinedWords : Expr :=
  .grouping (.binary (.literal (.string "a")) ⟨.plus, "+", none, 1⟩ (.literal (.string "b")))

/-- As a factor next to a variable, inside an assignment, the words are shown joined; under a minus
that is such a factor they fail, although the variable hides them from the product. -/
theorem joinedWords_interchangeable :
    Expr.joinedWords.fold = .ok (some (.string "ab")) ∧
      (Expr.Context.fill
        [.right (.reference ⟨.identifier, "x", none, 1⟩) ⟨.star, "*", none, 1⟩,
          .assign ⟨.identifier, "y", none, 1⟩] .joinedWords).render true = .ok "(= y (*  ab))" ∧
      (Expr.Context.fill
        [.unary ⟨.minus, "-", none, 2⟩,
          .right (.reference ⟨.identifier, "x", none, 1⟩) ⟨.star, "*", none, 1⟩]
        .joinedWords).render true =
          .error (.invalidOperand ⟨.minus, "-", none, 2⟩ (.string "ab")) := by
  have constant : Expr.joinedWords.fold = .ok (some (.string "ab")) := rfl
  have asValue := (constant_interchangeable .joinedWords).1 (.string "ab") constant
  refine ⟨constant, ?_, ?_⟩
  · rw [(asValue _).2]
    rfl
  · rw [(asValue _).2]
    rfl

end LoxForms
