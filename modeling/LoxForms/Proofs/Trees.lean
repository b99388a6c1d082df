import LoxForms.Proofs.Reading.Grammar
import LoxForms.Render

/-! # Trees with other tokens and values

`map` replaces the tokens and the literal values of a tree and leaves its shape.  `Conforms` says
that the tokens of a tree are those that a reader makes and that its literals are of a given class.
Neither the class nor the tokens depend on lines.
-/

namespace LoxForms

namespace Token

/-- The token on another line. -/
def atLine (line : UInt32) (token : Token) : Token := { token with line := line }

/-- The token of a name. -/
def IsName (token : Token) : Prop :=
  token.kind = .identifier ∧ token.literal = none ∧ Atom.isIdentifier token.lexeme = true

/-- The token of an operator on one operand. -/
def IsUnary (token : Token) : Prop :=
  Reading.UnaryOperator token.lexeme token.kind ∧ token.literal = none

/-- The token of an operator on two operands. -/
def IsBinary (token : Token) : Prop :=
  Reading.BinaryOperator token.lexeme token.kind ∧ token.literal = none

theorem IsName.atLine_eq {token : Token} (name : token.IsName) (line : UInt32) :
    token.atLine line = ⟨.identifier, token.lexeme, none, line⟩ := by
  simp [atLine, name.1, name.2.1]

theorem IsUnary.atLine_eq {token : Token} (operator : token.IsUnary) (line : UInt32) :
    token.atLine line = ⟨token.kind, token.lexeme, none, line⟩ := by
  simp [atLine, operator.2]

theorem IsBinary.atLine_eq {token : Token} (operator : token.IsBinary) (line : UInt32) :
    token.atLine line = ⟨token.kind, token.lexeme, none, line⟩ := by
  simp [atLine, operator.2]

end Token

namespace Expr

/-- The expression with its tokens and the values of its literals replaced. -/
def map (token : Token → Token) (value : Value → Value) : Expr → Expr
  | .assign name e => .assign (token name) (e.map token value)
  | .binary left operator right =>
    .binary (left.map token value) (token operator) (right.map token value)
  | .grouping inner => .grouping (inner.map token value)
  | .literal v => .literal (value v)
  | .unary operator operand => .unary (token operator) (operand.map token value)
  | .reference name => .reference (token name)

/-- The tokens are as the reader makes them, the literals are of the class, and references stand
only where they are allowed. -/
def Conforms (literals : Value → Prop) (references : Prop) : Expr → Prop
  | .assign name e => name.IsName ∧ e.Conforms literals references
  | .binary left operator right =>
    left.Conforms literals references ∧ operator.IsBinary ∧ right.Conforms literals references
  | .grouping inner => inner.Conforms literals references
  | .literal v => literals v
  | .unary operator operand => operator.IsUnary ∧ operand.Conforms literals references
  | .reference _ => references

theorem Conforms.mono {literals wider : Value → Prop} {references others : Prop}
    (values : ∀ v, literals v → wider v) (allowed : references → others) {e : Expr}
    (conforms : e.Conforms literals references) : e.Conforms wider others := by
  induction e with
  | assign name e ih => exact ⟨conforms.1, ih conforms.2⟩
  | binary left operator right leftHypothesis rightHypothesis =>
    exact ⟨leftHypothesis conforms.1, conforms.2.1, rightHypothesis conforms.2.2⟩
  | grouping inner ih => exact ih conforms
  | literal v => exact values v conforms
  | unary operator operand ih => exact ⟨conforms.1, ih conforms.2⟩
  | reference name => exact allowed conforms

/-- Lines do not matter to the class of a tree. -/
theorem conforms_map_atLine {literals : Value → Prop} {references : Prop} (line : UInt32)
    (e : Expr) :
    (e.map (Token.atLine line) id).Conforms literals references ↔
      e.Conforms literals references := by
  induction e with
  | assign name e ih => simp [map, Conforms, Token.IsName, Token.atLine, ih]
  | binary left operator right leftHypothesis rightHypothesis =>
    simp [map, Conforms, Token.IsBinary, Token.atLine, leftHypothesis, rightHypothesis]
  | grouping inner ih => simpa [map, Conforms] using ih
  | literal v => rfl
  | unary operator operand ih => simp [map, Conforms, Token.IsUnary, Token.atLine, ih]
  | reference name => rfl

/-- Where two maps agree on a tree, they agree on its literals. -/
theorem Conforms.of_map_eq {literals : Value → Prop} {references : Prop}
    {token : Token → Token} {value other : Value → Value} {e : Expr}
    (conforms : e.Conforms literals references)
    (same : e.map token value = e.map token other) :
    e.Conforms (fun v => literals v ∧ value v = other v) references := by
  induction e with
  | assign name e ih =>
    simp only [map, Expr.assign.injEq, true_and] at same
    exact ⟨conforms.1, ih conforms.2 same⟩
  | binary left operator right leftHypothesis rightHypothesis =>
    simp only [map, Expr.binary.injEq, true_and] at same
    exact ⟨leftHypothesis conforms.1 same.1, conforms.2.1, rightHypothesis conforms.2.2 same.2⟩
  | grouping inner ih =>
    simp only [map, Expr.grouping.injEq] at same
    exact ih conforms same
  | literal v =>
    simp only [map, Expr.literal.injEq] at same
    exact ⟨conforms, same⟩
  | unary operator operand ih =>
    simp only [map, Expr.unary.injEq, true_and] at same
    exact ⟨conforms.1, ih conforms.2 same⟩
  | reference name => exact conforms

theorem Conforms.map_eq {references : Prop} {value other : Value → Value} {e : Expr}
    (conforms : e.Conforms (fun v => value v = other v) references) (token : Token → Token) :
    e.map token value = e.map token other := by
  induction e with
  | assign name e ih => rw [map, map, ih conforms.2]
  | binary left operator right leftHypothesis rightHypothesis =>
    rw [map, map, leftHypothesis conforms.1, rightHypothesis conforms.2.2]
  | grouping inner ih => rw [map, map, ih conforms]
  | literal v => rw [map, map, show value v = other v from conforms]
  | unary operator operand ih => rw [map, map, ih conforms.2]
  | reference name => rfl

theorem map_id (e : Expr) : e.map id id = e := by
  induction e <;> simp_all [map]

/-- Of the tokens only the lexemes are written, and of the literals only their texts. -/
theorem text_map {token others : Token → Token} {value another : Value → Value}
    (sameLexeme : ∀ t, (token t).lexeme = (others t).lexeme)
    (sameText : ∀ v, (value v).text = (another v).text) (e : Expr) :
    (e.map token value).text = (e.map others another).text := by
  induction e with
  | assign name e ih => simp [map, text, sameLexeme, ih]
  | binary left operator right leftHypothesis rightHypothesis =>
    simp [map, text, sameLexeme, leftHypothesis, rightHypothesis]
  | grouping inner ih => simp [map, text, ih]
  | literal v => exact sameText v
  | unary operator operand ih => simp [map, text, sameLexeme, ih]
  | reference name => rfl

end Expr

namespace Stmt

/-- The statement with its tokens and the values of its literals replaced. -/
def map (token : Token → Token) (value : Value → Value) : Stmt → Stmt
  | .expression e => .expression (e.map token value)
  | .print e => .print (e.map token value)
  | .declaration name e => .declaration (token name) (e.map token value)

/-- The name and the body are as the reader makes them. -/
def Conforms (literals : Value → Prop) (references : Prop) : Stmt → Prop
  | .expression e => e.Conforms literals references
  | .print e => e.Conforms literals references
  | .declaration name e => name.IsName ∧ e.Conforms literals references

theorem Conforms.mono {literals wider : Value → Prop} {references others : Prop}
    (values : ∀ v, literals v → wider v) (allowed : references → others) {s : Stmt}
    (conforms : s.Conforms literals references) : s.Conforms wider others := by
  cases s with
  | expression e => exact Expr.Conforms.mono values allowed conforms
  | print e => exact Expr.Conforms.mono values allowed conforms
  | declaration name e => exact ⟨conforms.1, conforms.2.mono values allowed⟩

theorem conforms_map_atLine {literals : Value → Prop} {references : Prop} (line : UInt32)
    (s : Stmt) :
    (s.map (Token.atLine line) id).Conforms literals references ↔
      s.Conforms literals references := by
  cases s with
  | expression e => exact e.conforms_map_atLine line
  | print e => exact e.conforms_map_atLine line
  | declaration name e => exact and_congr Iff.rfl (e.conforms_map_atLine line)

theorem Conforms.of_map_eq {literals : Value → Prop} {references : Prop}
    {token : Token → Token} {value other : Value → Value} {s : Stmt}
    (conforms : s.Conforms literals references)
    (same : s.map token value = s.map token other) :
    s.Conforms (fun v => literals v ∧ value v = other v) references := by
  cases s with
  | expression e =>
    simp only [map, Stmt.expression.injEq] at same
    exact Expr.Conforms.of_map_eq conforms same
  | print e =>
    simp only [map, Stmt.print.injEq] at same
    exact Expr.Conforms.of_map_eq conforms same
  | declaration name e =>
    simp only [map, Stmt.declaration.injEq, true_and] at same
    exact ⟨conforms.1, conforms.2.of_map_eq same⟩

theorem Conforms.map_eq {references : Prop} {value other : Value → Value} {s : Stmt}
    (conforms : s.Conforms (fun v => value v = other v) references) (token : Token → Token) :
    s.map token value = s.map token other := by
  cases s with
  | expression e => rw [map, map, Expr.Conforms.map_eq conforms]
  | print e => rw [map, map, Expr.Conforms.map_eq conforms]
  | declaration name e => rw [map, map, conforms.2.map_eq]

theorem map_id (s : Stmt) : s.map id id = s := by
  cases s <;> simp [map, Expr.map_id]

theorem text_map {token others : Token → Token} {value another : Value → Value}
    (sameLexeme : ∀ t, (token t).lexeme = (others t).lexeme)
    (sameText : ∀ v, (value v).text = (another v).text) (s : Stmt) :
    (s.map token value).text = (s.map others another).text := by
  cases s <;> simp [map, text, sameLexeme, Expr.text_map sameLexeme sameText]

end Stmt

end LoxForms
