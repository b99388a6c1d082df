import Mathlib.Data.List.Forall2
import LoxForms.Proofs.Trees

/-! # Trees and errors on other lines

Two trees, or two errors, are `Alike` if they differ in their lines only and these are related one
by one.  Then they are equal on new lines that do not tell the related ones apart
(`Alike.relined_eq`), and their lines are related in order (`Alike.tokenLines`, `Alike.lines`).
-/

namespace LoxForms

variable {related : UInt32 → UInt32 → Prop} {newLine another : UInt32 → UInt32}

namespace Token

/-- The token on the line that is given for its own. -/
def relined (newLine : UInt32 → UInt32) (token : Token) : Token :=
  { token with line := newLine token.line }

structure Alike (related : UInt32 → UInt32 → Prop) (first second : Token) : Prop where
  kind : first.kind = second.kind
  lexeme : first.lexeme = second.lexeme
  literal : first.literal = second.literal
  line : related first.line second.line

theorem Alike.relined_eq {first second : Token} (alike : Alike related first second)
    (same : ∀ line other, related line other → newLine line = another other) :
    first.relined newLine = second.relined another := by
  simp [relined, alike.kind, alike.lexeme, alike.literal, same _ _ alike.line]

end Token

/-! ## Expressions -/

namespace Expr

/-- The expression with its tokens on new lines. -/
def relined (newLine : UInt32 → UInt32) (e : Expr) : Expr := e.map (Token.relined newLine) id

/-- The tokens of an expression, an operator before its operands and a name before its value. -/
def tokens : Expr → List Token
  | .assign name value => name :: value.tokens
  | .binary left operator right => operator :: (left.tokens ++ right.tokens)
  | .grouping inner => inner.tokens
  | .literal _ => []
  | .unary operator operand => operator :: operand.tokens
  | .reference name => [name]

def tokenLines (e : Expr) : List UInt32 := e.tokens.map Token.line

inductive Alike (related : UInt32 → UInt32 → Prop) : Expr → Expr → Prop where
  | assign {name otherName : Token} {value otherValue : Expr}
      (names : Token.Alike related name otherName) (values : Alike related value otherValue) :
      Alike related (.assign name value) (.assign otherName otherValue)
  | binary {operator otherOperator : Token} {left otherLeft right otherRight : Expr}
      (lefts : Alike related left otherLeft)
      (operators : Token.Alike related operator otherOperator)
      (rights : Alike related right otherRight) :
      Alike related (.binary left operator right) (.binary otherLeft otherOperator otherRight)
  | grouping {inner otherInner : Expr} (inners : Alike related inner otherInner) :
      Alike related (.grouping inner) (.grouping otherInner)
  | literal (value : Value) : Alike related (.literal value) (.literal value)
  | unary {operator otherOperator : Token} {operand otherOperand : Expr}
      (operators : Token.Alike related operator otherOperator)
      (operands : Alike related operand otherOperand) :
      Alike related (.unary operator operand) (.unary otherOperator otherOperand)
  | reference {name otherName : Token} (names : Token.Alike related name otherName) :
      Alike related (.reference name) (.reference otherName)

theorem Alike.relined_eq {first second : Expr} (alike : Alike related first second)
    (same : ∀ line other, related line other → newLine line = another other) :
    first.relined newLine = second.relined another := by
  induction alike with
  | assign names _ ih => simpa [relined, map, names.relined_eq same] using ih
  | binary _ operators _ leftHypothesis rightHypothesis =>
    simpa [relined, map, operators.relined_eq same] using And.intro leftHypothesis rightHypothesis
  | grouping _ ih => simpa [relined, map] using ih
  | literal => rfl
  | unary operators _ ih => simpa [relined, map, operators.relined_eq same] using ih
  | reference names => simp [relined, map, names.relined_eq same]

theorem Alike.tokenLines {first second : Expr} (alike : Alike related first second) :
    List.Forall₂ related first.tokenLines second.tokenLines := by
  induction alike with
  | assign names _ ih => exact .cons names.line ih
  | binary _ operators _ leftHypothesis rightHypothesis =>
    refine .cons operators.line ?_
    rw [List.map_append, List.map_append]
    exact List.rel_append leftHypothesis rightHypothesis
  | grouping _ ih => exact ih
  | literal => exact .nil
  | unary operators _ ih => exact .cons operators.line ih
  | reference names => exact .cons names.line .nil

end Expr

/-! ## Statements and programs -/

namespace Stmt

/-- The statement with its tokens on new lines. -/
def relined (newLine : UInt32 → UInt32) (s : Stmt) : Stmt := s.map (Token.relined newLine) id

def tokens : Stmt → List Token
  | .expression e => e.tokens
  | .print e => e.tokens
  | .declaration name initializer => name :: initializer.tokens

def tokenLines (s : Stmt) : List UInt32 := s.tokens.map Token.line

inductive Alike (related : UInt32 → UInt32 → Prop) : Stmt → Stmt → Prop where
  | expression {e other : Expr} (bodies : Expr.Alike related e other) :
      Alike related (.expression e) (.expression other)
  | print {e other : Expr} (bodies : Expr.Alike related e other) :
      Alike related (.print e) (.print other)
  | declaration {name otherName : Token} {e other : Expr}
      (names : Token.Alike related name otherName) (bodies : Expr.Alike related e other) :
      Alike related (.declaration name e) (.declaration otherName other)

theorem Alike.relined_eq {first second : Stmt} (alike : Alike related first second)
    (same : ∀ line other, related line other → newLine line = another other) :
    first.relined newLine = second.relined another := by
  cases alike with
  | expression bodies => exact congrArg Stmt.expression (bodies.relined_eq same)
  | print bodies => exact congrArg Stmt.print (bodies.relined_eq same)
  | declaration names bodies =>
    exact congrArg₂ Stmt.declaration (names.relined_eq same) (bodies.relined_eq same)

theorem Alike.tokenLines {first second : Stmt} (alike : Alike related first second) :
    List.Forall₂ related first.tokenLines second.tokenLines := by
  cases alike with
  | expression bodies => exact bodies.tokenLines
  | print bodies => exact bodies.tokenLines
  | declaration names bodies => exact .cons names.line bodies.tokenLines

end Stmt

namespace Program

def relined (newLine : UInt32 → UInt32) (program : Program) : Program :=
  program.map (Stmt.relined newLine)

def tokenLines (program : Program) : List UInt32 := program.flatMap Stmt.tokenLines

def Alike (related : UInt32 → UInt32 → Prop) : Program → Program → Prop :=
  List.Forall₂ (Stmt.Alike related)

theorem relined_id (program : Program) : program.relined id = program := by
  have unchanged : Stmt.relined id = id := funext Stmt.map_id
  rw [relined, unchanged, List.map_id]

theorem Alike.relined_eq {first second : Program} (alike : Alike related first second)
    (same : ∀ line other, related line other → newLine line = another other) :
    first.relined newLine = second.relined another := by
  induction alike with
  | nil => rfl
  | cons statements _ ih => exact congrArg₂ List.cons (statements.relined_eq same) ih

theorem Alike.tokenLines {first second : Program} (alike : Alike related first second) :
    List.Forall₂ related first.tokenLines second.tokenLines := by
  induction alike with
  | nil => exact .nil
  | cons statements _ ih => exact List.rel_append statements.tokenLines ih

end Program

/-! ## Errors -/

namespace ReadError

/-- The error on a new line, if it is on one. -/
def relined (newLine : UInt32 → UInt32) : ReadError → ReadError
  | .prematureTermination => .prematureTermination
  | .unexpectedClose line => .unexpectedClose (newLine line)
  | .expectedForm found line => .expectedForm found (newLine line)
  | .missingHead line => .missingHead (newLine line)
  | .unknownForm head line => .unknownForm head (newLine line)
  | .wrongArity head found line => .wrongArity head found (newLine line)
  | .expectedIdentifier found line => .expectedIdentifier found (newLine line)
  | .trailingInput line => .trailingInput (newLine line)

/-- The line of an error, if it is on one. -/
def lines : ReadError → List UInt32
  | .prematureTermination => []
  | .unexpectedClose line => [line]
  | .expectedForm _ line => [line]
  | .missingHead line => [line]
  | .unknownForm _ line => [line]
  | .wrongArity _ _ line => [line]
  | .expectedIdentifier _ line => [line]
  | .trailingInput line => [line]

inductive Alike (related : UInt32 → UInt32 → Prop) : ReadError → ReadError → Prop where
  | prematureTermination : Alike related .prematureTermination .prematureTermination
  | unexpectedClose {line other : UInt32} (lines : related line other) :
      Alike related (.unexpectedClose line) (.unexpectedClose other)
  | expectedForm (found : String) {line other : UInt32} (lines : related line other) :
      Alike related (.expectedForm found line) (.expectedForm found other)
  | missingHead {line other : UInt32} (lines : related line other) :
      Alike related (.missingHead line) (.missingHead other)
  | unknownForm (head : String) {line other : UInt32} (lines : related line other) :
      Alike related (.unknownForm head line) (.unknownForm head other)
  | wrongArity (head : String) (found : Nat) {line other : UInt32} (lines : related line other) :
      Alike related (.wrongArity head found line) (.wrongArity head found other)
  | expectedIdentifier (found : String) {line other : UInt32} (lines : related line other) :
      Alike related (.expectedIdentifier found line) (.expectedIdentifier found other)
  | trailingInput {line other : UInt32} (lines : related line other) :
      Alike related (.trailingInput line) (.trailingInput other)

theorem relined_id (failure : ReadError) : failure.relined id = failure := by
  cases failure <;> rfl

theorem Alike.relined_eq {first second : ReadError} (alike : Alike related first second)
    (same : ∀ line other, related line other → newLine line = another other) :
    first.relined newLine = second.relined another := by
  cases alike with
  | prematureTermination => rfl
  | unexpectedClose lines | expectedForm _ lines | missingHead lines | unknownForm _ lines
  | wrongArity _ _ lines | expectedIdentifier _ lines | trailingInput lines =>
    simp [relined, same _ _ lines]

theorem Alike.lines {first second : ReadError} (alike : Alike related first second) :
    List.Forall₂ related first.lines second.lines := by
  cases alike with
  | prematureTermination => exact .nil
  | unexpectedClose lines | expectedForm _ lines | missingHead lines | unknownForm _ lines
  | wrongArity _ _ lines | expectedIdentifier _ lines | trailingInput lines =>
    exact .cons lines .nil

end ReadError

end LoxForms
