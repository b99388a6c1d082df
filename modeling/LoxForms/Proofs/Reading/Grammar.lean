import LoxForms.Reading.Source

/-! # The grammar of forms

Which sequences of pieces stand for which trees, without regard to how they are read:

* `DerivesExpr` — an atom, a grouping, an assignment, or an operation on one or two operands;
* `DerivesStmt` — one of the three statements around an expression;
* `DerivesProgram` — derivations of statements, one after the other.

The lines of a tree are those of the pieces: an operator stands on the line of the head of its
form, and a name on its own.
-/

namespace LoxForms.Reading

/-! ## Operators -/

/-- The lexemes and kinds of the operators on one operand. -/
inductive UnaryOperator : String → TokenKind → Prop where
  | minus : UnaryOperator "-" .minus
  | bang : UnaryOperator "!" .bang

/-- The lexemes and kinds of the operators on two operands. -/
inductive BinaryOperator : String → TokenKind → Prop where
  | plus : BinaryOperator "+" .plus
  | minus : BinaryOperator "-" .minus
  | star : BinaryOperator "*" .star
  | slash : BinaryOperator "/" .slash
  | equalEqual : BinaryOperator "==" .equalEqual
  | bangEqual : BinaryOperator "!=" .bangEqual
  | less : BinaryOperator "<" .less
  | lessEqual : BinaryOperator "<=" .lessEqual
  | greater : BinaryOperator ">" .greater
  | greaterEqual : BinaryOperator ">=" .greaterEqual

theorem mem_of_lookup {table : List (String × TokenKind)} {head : String} {kind : TokenKind}
    (found : table.lookup head = some kind) : (head, kind) ∈ table := by
  obtain ⟨before, after, split, _⟩ := List.lookup_eq_some_iff.1 found
  rw [split]
  exact List.mem_append_right before List.mem_cons_self

theorem unary?_eq_some_iff {head : String} {kind : TokenKind} :
    Operator.unary? head = some kind ↔ UnaryOperator head kind := by
  constructor
  · intro found
    have entry := mem_of_lookup found
    simp only [Operator.unaryTable, List.mem_cons, Prod.mk.injEq, List.not_mem_nil,
      or_false] at entry
    rcases entry with ⟨rfl, rfl⟩ | ⟨rfl, rfl⟩ <;> constructor
  · intro operator
    cases operator <;> rfl

theorem binary?_eq_some_iff {head : String} {kind : TokenKind} :
    Operator.binary? head = some kind ↔ BinaryOperator head kind := by
  constructor
  · intro found
    have entry := mem_of_lookup found
    simp only [Operator.binaryTable, List.mem_cons, Prod.mk.injEq, List.not_mem_nil,
      or_false] at entry
    rcases entry with ⟨rfl, rfl⟩ | ⟨rfl, rfl⟩ | ⟨rfl, rfl⟩ | ⟨rfl, rfl⟩ | ⟨rfl, rfl⟩ |
      ⟨rfl, rfl⟩ | ⟨rfl, rfl⟩ | ⟨rfl, rfl⟩ | ⟨rfl, rfl⟩ | ⟨rfl, rfl⟩ <;> constructor
  · intro operator
    cases operator <;> rfl

/-! ## Derivations -/

/-- A form with its head, on the given lines of the two parentheses and of the head. -/
def formPieces (opens line closes : UInt32) (head : String) (operands : List LocatedPiece) :
    List LocatedPiece :=
  ⟨.opening, opens⟩ :: ⟨.atom head, line⟩ :: operands ++ [⟨.closing, closes⟩]

theorem formPieces_append (opens line closes : UInt32) (head : String)
    (operands rest : List LocatedPiece) :
    formPieces opens line closes head operands ++ rest =
      ⟨.opening, opens⟩ :: ⟨.atom head, line⟩ :: (operands ++ ⟨.closing, closes⟩ :: rest) := by
  simp [formPieces]

/-- The pieces are those of the expression. -/
inductive DerivesExpr : List LocatedPiece → Expr → Prop where
  | literal (text : String) (line : UInt32) :
      DerivesExpr [⟨.atom text, line⟩] (.literal (Atom.value text))
  | grouping (opens line closes : UInt32) {pieces : List LocatedPiece} {inner : Expr}
      (operand : DerivesExpr pieces inner) :
      DerivesExpr (formPieces opens line closes "group" pieces) (.grouping inner)
  | assign (opens line nameLine closes : UInt32) {name : String} {pieces : List LocatedPiece}
      {value : Expr} (named : Atom.isIdentifier name = true) (operand : DerivesExpr pieces value) :
      DerivesExpr (formPieces opens line closes "=" (⟨.atom name, nameLine⟩ :: pieces))
        (.assign ⟨.identifier, name, none, nameLine⟩ value)
  | unary (opens line closes : UInt32) {head : String} {kind : TokenKind}
      {pieces : List LocatedPiece} {operand : Expr} (operator : UnaryOperator head kind)
      (derived : DerivesExpr pieces operand) :
      DerivesExpr (formPieces opens line closes head pieces)
        (.unary ⟨kind, head, none, line⟩ operand)
  | binary (opens line closes : UInt32) {head : String} {kind : TokenKind}
      {leftPieces rightPieces : List LocatedPiece} {left right : Expr}
      (operator : BinaryOperator head kind) (leftDerived : DerivesExpr leftPieces left)
      (rightDerived : DerivesExpr rightPieces right) :
      DerivesExpr (formPieces opens line closes head (leftPieces ++ rightPieces))
        (.binary left ⟨kind, head, none, line⟩ right)

/-- The pieces are those of the statement. -/
inductive DerivesStmt : List LocatedPiece → Stmt → Prop where
  | expression (opens line closes : UInt32) {pieces : List LocatedPiece} {body : Expr}
      (derived : DerivesExpr pieces body) :
      DerivesStmt (formPieces opens line closes "expr" pieces) (.expression body)
  | print (opens line closes : UInt32) {pieces : List LocatedPiece} {body : Expr}
      (derived : DerivesExpr pieces body) :
      DerivesStmt (formPieces opens line closes "print" pieces) (.print body)
  | declaration (opens line nameLine closes : UInt32) {name : String}
      {pieces : List LocatedPiece} {body : Expr} (named : Atom.isIdentifier name = true)
      (derived : DerivesExpr pieces body) :
      DerivesStmt (formPieces opens line closes "var" (⟨.atom name, nameLine⟩ :: pieces))
        (.declaration ⟨.identifier, name, none, nameLine⟩ body)

/-- The pieces are those of the statements, in order. -/
inductive DerivesProgram : List LocatedPiece → Program → Prop where
  | nil : DerivesProgram [] []
  | cons {pieces others : List LocatedPiece} {first : Stmt} {program : Program}
      (derived : DerivesStmt pieces first) (rest : DerivesProgram others program) :
      DerivesProgram (pieces ++ others) (first :: program)

end LoxForms.Reading
