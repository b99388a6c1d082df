import Mathlib.Data.List.Forall2
import LoxForms.Proofs.Places
import LoxForms.Proofs.Reading.Balance
import LoxForms.Proofs.Reading.Finality
import LoxForms.Proofs.Reading.Rejections

/-! # What is wrong with a text that cannot be read

Every error of the reader stands for something that can be seen in the pieces of the text, with the
line and the words that the error gives (`Defect`).  Which heads are known depends on the place of a
form alone: outside all forms a program has statements, and everywhere else there are expressions
(`Category.behind`).  The pieces that lead to a state of the reader say where the form begins in which
the next piece is rejected (`Reached.defect`, `ReachedStmt.defect`), and a reader that has taken all
pieces has left a form open.
-/

namespace LoxForms.Reading

/-! ## Forms and their heads -/

/-- What a form stands for. -/
inductive Category where
  | statement
  | expression

/-- The forms that hold so many names, and then one expression. -/
inductive BodyForm : Category → String → Nat → Prop where
  | expression : BodyForm .statement "expr" 0
  | print : BodyForm .statement "print" 0
  | declaration : BodyForm .statement "var" 1
  | assign : BodyForm .expression "=" 1

/-- The heads of forms, and the numbers of operands that each of them takes. -/
inductive Arity : Category → String → Nat → Prop where
  | body {category : Category} {head : String} {names : Nat} (form : BodyForm category head names) :
      Arity category head (names + 1)
  | group : Arity .expression "group" 1
  | unary {head : String} {kind : TokenKind} (operator : UnaryOperator head kind) :
      Arity .expression head 1
  | binary {head : String} {kind : TokenKind} (operator : BinaryOperator head kind) :
      Arity .expression head 2

theorem BodyForm.names_unique {category : Category} {head other : String} {names more : Nat}
    (first : BodyForm category head names) (second : BodyForm category other more)
    (same : head = other) : names = more := by
  cases first <;> cases second <;> simp_all

/-- Among expressions, only the head of an assignment is not left to the operands. -/
theorem BodyForm.eq_assign {head : String} {names : Nat}
    (form : BodyForm .expression head names) : head = "=" := by
  cases form
  rfl

theorem BodyForm.not_arity {category : Category} {head : String} {names : Nat}
    (form : BodyForm category head names) : ¬ Arity category head (names + 2) := by
  generalize count : names + 2 = found
  intro arity
  cases arity with
  | body other =>
    have same := form.names_unique other rfl
    omega
  | group => exact absurd form.eq_assign (by decide)
  | unary operator => exact operator.ne_equal.1 form.eq_assign
  | binary operator => exact operator.ne_equal form.eq_assign

/-- What a form stands for that opens behind the pieces. -/
def Category.behind (outer : Category) (before : List LocatedPiece) : Category :=
  if openings before = closings before then outer else .expression

/-! ## Defects -/

def IsIdentifier (piece : Piece) : Prop :=
  ∃ name, piece = .atom name ∧ Atom.isIdentifier name = true

/-- A form of the category opens among the pieces, and those inside come behind its parenthesis. -/
def Opens (outer : Category) (pieces : List LocatedPiece) (category : Category)
    (inside : List LocatedPiece) : Prop :=
  ∃ before opens, pieces = before ++ ⟨.opening, opens⟩ :: inside ∧ outer.behind before = category

/-- How many operands are found behind the head of a form: all of them, or if the form is made for
one expression the first that is too many. -/
inductive Finds (category : Category) (head : String) : List LocatedPiece → Nat → Prop where
  | all {parts : List (List LocatedPiece)} {operands : List Expr} (closes : UInt32)
      (rest : List LocatedPiece) (derived : List.Forall₂ DerivesExpr parts operands)
      (collects : ∀ names, ¬ BodyForm category head names) :
      Finds category head (parts.flatten ++ ⟨.closing, closes⟩ :: rest) operands.length
  | further {given body rest : List LocatedPiece} {e : Expr} {extra : LocatedPiece}
      (form : BodyForm category head given.length)
      (named : ∀ located ∈ given, IsIdentifier located.piece) (derived : DerivesExpr body e)
      (more : extra.piece ≠ .closing) :
      Finds category head (given ++ body ++ extra :: rest) (given.length + 2)

/-- What the pieces must have in them for an error to be right. -/
def Defect (outer : Category) (pieces : List LocatedPiece) : ReadError → Prop
  | .prematureTermination =>
    closings pieces < openings pieces ∨ outer = .expression ∧ pieces = []
  | .missingHead line =>
    ∃ category piece rest, Opens outer pieces category (⟨piece, line⟩ :: rest) ∧
      (piece = .opening ∨ piece = .closing)
  | .unknownForm head line =>
    ∃ category rest, Opens outer pieces category (⟨.atom head, line⟩ :: rest) ∧
      ∀ arity, ¬ Arity category head arity
  | .wrongArity head found line =>
    ∃ category rest, Opens outer pieces category (⟨.atom head, line⟩ :: rest) ∧
      (∃ arity, Arity category head arity) ∧ ¬ Arity category head found ∧
      Finds category head rest found
  | .expectedIdentifier found line =>
    ∃ category head headLine piece rest,
      Opens outer pieces category (⟨.atom head, headLine⟩ :: ⟨piece, line⟩ :: rest) ∧
      BodyForm category head 1 ∧ piece ≠ .closing ∧ ¬ IsIdentifier piece ∧
      found = String.ofList piece.chars
  | .unexpectedClose line =>
    (∃ before rest, pieces = before ++ ⟨.closing, line⟩ :: rest ∧
        openings before = closings before) ∨
      ∃ category head headLine names given rest,
        Opens outer pieces category
          (⟨.atom head, headLine⟩ :: (given ++ ⟨.closing, line⟩ :: rest)) ∧
        BodyForm category head names ∧ given.length ≤ names ∧
        ∀ located ∈ given, IsIdentifier located.piece
  | .expectedForm found line =>
    outer = .statement ∧ ∃ before rest, pieces = before ++ ⟨.atom found, line⟩ :: rest ∧
      openings before = closings before
  | .trailingInput line =>
    outer = .expression ∧ ∃ whole e piece rest, pieces = whole ++ ⟨piece, line⟩ :: rest ∧
      DerivesExpr whole e

section Opens

variable {outer category : Category} {pieces rest given body : List LocatedPiece}
  {located : LocatedPiece} {head : String} {headLine line : UInt32} {names : Nat}
  {failure : ReadError}

theorem Opens.missingHead (opens : Opens outer pieces category (located :: rest))
    (noAtom : ∀ text, located.piece ≠ .atom text) :
    Defect outer pieces (.missingHead located.line) := by
  refine ⟨category, located.piece, rest, opens, ?_⟩
  cases piece : located.piece with
  | opening => exact .inl rfl
  | closing => exact .inr rfl
  | atom text => exact absurd piece (noAtom text)

theorem identifier_eq_error (refused : identifier located = .error failure) :
    located.piece = .closing ∧ failure = .unexpectedClose located.line ∨
      located.piece ≠ .closing ∧ ¬ IsIdentifier located.piece ∧
        failure = .expectedIdentifier (String.ofList located.piece.chars) located.line := by
  obtain ⟨piece, line⟩ := located
  cases piece with
  | closing =>
    cases refused
    exact .inl ⟨rfl, rfl⟩
  | opening =>
    cases refused
    exact .inr ⟨nofun, nofun, rfl⟩
  | atom text =>
    refine .inr ⟨nofun, ?_⟩
    by_cases named : Atom.isIdentifier text = true
    · rw [identifier_atom named] at refused
      cases refused
    · simp only [identifier, if_neg named] at refused
      cases refused
      refine ⟨?_, by simp [Piece.chars]⟩
      rintro ⟨_, ⟨⟩, again⟩
      exact named again

/-- Where the name of a form is due, another piece is the defect. -/
theorem Opens.noName
    (opens : Opens outer pieces category (⟨.atom head, headLine⟩ :: located :: rest))
    (form : BodyForm category head 1) (refused : identifier located = .error failure) :
    Defect outer pieces failure := by
  obtain ⟨piece, line⟩ := located
  rcases identifier_eq_error refused with ⟨rfl, rfl⟩ | ⟨notClosing, noName, rfl⟩
  · exact .inr ⟨category, head, headLine, 1, [], rest, opens, form, Nat.zero_le 1, nofun⟩
  · exact ⟨category, head, headLine, piece, rest, opens, form, notClosing, noName, rfl⟩

theorem Opens.noBody
    (opens : Opens outer pieces category
      (⟨.atom head, headLine⟩ :: (given ++ ⟨.closing, line⟩ :: rest)))
    (form : BodyForm category head given.length)
    (named : ∀ located ∈ given, IsIdentifier located.piece) :
    Defect outer pieces (.unexpectedClose line) :=
  .inr ⟨category, head, headLine, given.length, given, rest, opens, form, Nat.le_refl _, named⟩

theorem Opens.tooLong {e : Expr}
    (opens : Opens outer pieces category
      (⟨.atom head, headLine⟩ :: (given ++ body ++ located :: rest)))
    (form : BodyForm category head given.length)
    (named : ∀ located ∈ given, IsIdentifier located.piece) (derived : DerivesExpr body e)
    (further : located.piece ≠ .closing) :
    Defect outer pieces (.wrongArity head (given.length + 2) headLine) :=
  ⟨category, _, opens, ⟨_, .body form⟩, form.not_arity, .further form named derived further⟩

end Opens

/-! ## Rejected expressions -/

section Expressions

variable {outer : Category} {around taken rest : List LocatedPiece} {frames : List Frame}
  {head : String} {line : UInt32} {operands : List Expr} {failure : ReadError}

/-- Every form that opens behind the pieces is an expression as long as it is not closed. -/
def HoldsExpressions (outer : Category) (around : List LocatedPiece) : Prop :=
  ∃ depth, LeavesOpen depth around ∧ (outer = .expression ∨ 0 < depth)

theorem holdsExpressions_nil : HoldsExpressions .expression [] := ⟨0, leavesOpen_nil, .inl rfl⟩

theorem HoldsExpressions.behind_append (holds : HoldsExpressions outer around)
    (opened : Opened taken frames) : outer.behind (around ++ taken) = .expression := by
  obtain ⟨depth, leaves, inside⟩ := holds
  have together := leaves.append opened.leavesOpen
  unfold LeavesOpen at together
  unfold Category.behind
  split
  next outside =>
    rcases inside with rfl | positive
    · rfl
    · omega
  next => rfl

theorem HoldsExpressions.opens {before : List LocatedPiece} (holds : HoldsExpressions outer around)
    (outside : Opened before frames) (opens : UInt32) (inside : List LocatedPiece) :
    Opens outer (around ++ before ++ ⟨.opening, opens⟩ :: inside) .expression inside :=
  ⟨_, opens, rfl, holds.behind_append outside⟩

/-- The pieces of a form that collects operands, up to the next one. -/
theorem Opened.exists_operands {reversed : List Expr}
    (opened : Opened taken (.operands head line reversed :: frames)) :
    ∃ before opens parts,
      taken = before ++ ⟨.opening, opens⟩ :: ⟨.atom head, line⟩ :: parts.flatten ∧
      Opened before frames ∧ head ≠ "=" ∧ List.Forall₂ DerivesExpr parts reversed.reverse := by
  induction reversed generalizing taken with
  | nil =>
    cases opened with
    | head opens _ notAssign outside => exact ⟨_, opens, [], by simp, outside, notAssign, .nil⟩
  | cons e reversed ih =>
    cases opened with
    | @operand _ last _ _ _ _ _ before derived =>
      obtain ⟨outside, opens, parts, rfl, opened, notAssign, all⟩ := ih before
      refine ⟨outside, opens, parts ++ [last], by simp, opened, notAssign, ?_⟩
      rw [List.reverse_cons]
      exact List.rel_append all (.cons derived .nil)

theorem formExpr_of_arity {count : Nat} (arity : Arity .expression head count)
    (notAssign : head ≠ "=") (length : operands.length = count) (line : UInt32) :
    ∃ form, formExpr head line operands = .ok form := by
  cases arity with
  | body form => exact absurd form.eq_assign notAssign
  | group =>
    obtain ⟨operand, rfl⟩ := List.length_eq_one_iff.1 length
    exact ⟨_, formExpr_group line operand⟩
  | unary operator =>
    obtain ⟨operand, rfl⟩ := List.length_eq_one_iff.1 length
    exact ⟨_, operator.formExpr_eq line operand⟩
  | binary operator =>
    obtain ⟨left, right, rfl⟩ := List.length_eq_two.1 length
    exact ⟨_, operator.formExpr_eq line left right⟩

theorem isFormHead_iff (notAssign : head ≠ "=") :
    isFormHead head = true ↔ ∃ arity, Arity .expression head arity := by
  simp only [isFormHead, Bool.or_eq_true, beq_iff_eq, Option.isSome_iff_exists,
    unary?_eq_some_iff, binary?_eq_some_iff]
  constructor
  · rintro ((rfl | ⟨kind, operator⟩) | ⟨kind, operator⟩)
    · exact ⟨1, .group⟩
    · exact ⟨1, .unary operator⟩
    · exact ⟨2, .binary operator⟩
  · rintro ⟨arity, taken⟩
    cases taken with
    | body form => exact absurd form.eq_assign notAssign
    | group => exact .inl (.inl rfl)
    | unary operator => exact .inl (.inr ⟨_, operator⟩)
    | binary operator => exact .inr ⟨_, operator⟩

theorem formExpr_eq_error (refused : formExpr head line operands = .error failure) :
    isFormHead head = true ∧ failure = .wrongArity head operands.length line ∨
      isFormHead head = false ∧ failure = .unknownForm head line := by
  unfold formExpr at refused
  split at refused
  next => cases refused
  next =>
    split at refused
    next known =>
      cases refused
      exact .inl ⟨known, rfl⟩
    next unknown =>
      cases refused
      exact .inr ⟨by simpa using unknown, rfl⟩

/-- A form that is closed has an unknown head, or operands that its head does not take. -/
theorem Opened.defect_form {reversed : List Expr}
    (opened : Opened taken (.operands head line reversed :: frames))
    (holds : HoldsExpressions outer around)
    (refused : formExpr head line reversed.reverse = .error failure) (closes : UInt32) :
    Defect outer (around ++ taken ++ ⟨.closing, closes⟩ :: rest) failure := by
  obtain ⟨before, opens, parts, rfl, outside, notAssign, derived⟩ := opened.exists_operands
  have form := holds.opens outside opens
    (⟨.atom head, line⟩ :: (parts.flatten ++ ⟨.closing, closes⟩ :: rest))
  simp only [List.append_assoc, List.cons_append] at form ⊢
  rcases formExpr_eq_error refused with ⟨known, rfl⟩ | ⟨unknown, rfl⟩
  · refine ⟨.expression, _, form, (isFormHead_iff notAssign).1 known, fun taken => ?_,
      .all closes rest derived fun _ body => notAssign body.eq_assign⟩
    obtain ⟨formed, accepted⟩ := formExpr_of_arity taken notAssign rfl line
    rw [accepted] at refused
    cases refused
  · refine ⟨.expression, _, form, fun arity taken => ?_⟩
    have known := (isFormHead_iff notAssign).2 ⟨arity, taken⟩
    rw [unknown] at known
    cases known

/-- Where only expressions are held, a piece that is rejected shows a defect of the form that it
stands in.  If it closes where the whole expression should begin, that is a defect of what is around
the expression. -/
theorem Reached.defect {state : ExprState} {located : LocatedPiece} (reached : Reached taken state)
    (rejects : ExprRejection state located failure) (holds : HoldsExpressions outer around)
    (started : state ≠ .start) :
    Defect outer (around ++ taken ++ located :: rest) failure := by
  cases rejects with
  | noExpression => exact absurd rfl started
  | noValue name line headLine frames =>
    cases reached with
    | expression opened =>
      cases opened with
      | @value _ _ opens _ nameLine name named outside =>
        have form := holds.opens outside opens
          (⟨.atom "=", headLine⟩ :: ([⟨.atom name, nameLine⟩] ++ ⟨.closing, line⟩ :: rest))
        simpa using form.noBody .assign (by simpa [IsIdentifier] using named)
  | form line frames refused =>
    cases reached with
    | expression opened => exact opened.defect_form holds refused line
  | head frames noAtom =>
    cases reached with
    | formHead opens opened =>
      simpa using (holds.opens opened opens (located :: rest)).missingHead noAtom
  | target headLine frames refused =>
    cases reached with
    | target opens _ opened =>
      have form := holds.opens opened opens (⟨.atom "=", headLine⟩ :: located :: rest)
      simpa using form.noName .assign refused
  | tooLong name value headLine frames further =>
    cases reached with
    | @close _ body _ _ _ _ opened derived =>
      cases opened with
      | @value _ _ opens _ nameLine name named outside =>
        have form := holds.opens outside opens
          (⟨.atom "=", headLine⟩ :: ([⟨.atom name, nameLine⟩] ++ body ++ located :: rest))
        simpa using form.tooLong .assign (by simpa [IsIdentifier] using named) derived further

theorem Reached.eq_nil_of_start (reached : Reached taken .start) : taken = [] := by
  cases reached with
  | expression opened =>
    cases opened
    rfl

theorem ExprRejection.eq_of_start {located : LocatedPiece}
    (rejects : ExprRejection .start located failure) :
    ∃ closes, located = ⟨.closing, closes⟩ ∧ failure = .unexpectedClose closes := by
  cases rejects
  exact ⟨_, rfl, rfl⟩

theorem expression_defect {pieces : List LocatedPiece}
    (failed : expression pieces = .error failure) : Defect .expression pieces failure := by
  rcases consume_eq_error Reached reached_step (.expression .outermost) failed with
    ⟨rfl, final, atEnd⟩ | ⟨read, located, rest, final, rfl, before, refused⟩
  · have leaves := atEnd.leavesOpen
    unfold LeavesOpen at leaves
    by_cases started : final = .start
    · subst started
      exact .inr ⟨rfl, atEnd.eq_nil_of_start⟩
    · have inside : final.depth ≠ 0 := fun outside =>
        started (ExprState.depth_eq_zero_iff.1 outside)
      exact .inl (by rw [List.nil_append] at leaves; omega)
  · have rejects := exprRejection_of_step refused
    by_cases started : final = .start
    · subst started
      obtain ⟨closes, rfl, rfl⟩ := rejects.eq_of_start
      exact .inl ⟨read, rest, rfl, before.leavesOpen⟩
    · exact before.defect rejects holdsExpressions_nil started

end Expressions

/-! ## Rejected statements -/

section Statements

variable {earlier taken rest : List LocatedPiece} {failure : ReadError}

theorem Arity.mem_heads {head : String} {arity : Nat} (known : Arity .statement head arity) :
    head ∈ heads := by
  cases known with
  | body form => cases form <;> simp [heads]

theorem LeavesOpen.opens_statement (balanced : LeavesOpen 0 earlier) (opens : UInt32)
    (inside : List LocatedPiece) :
    Opens .statement (earlier ++ ⟨.opening, opens⟩ :: inside) .statement inside :=
  ⟨earlier, opens, rfl, if_pos balanced⟩

/-- The pieces of a statement before its body are those of its form, and a name if it has one. -/
theorem OpenedShape.exists_names {shape : Shape} {line : UInt32}
    (opened : OpenedShape taken shape line) :
    ∃ opens given, taken = ⟨.opening, opens⟩ :: ⟨.atom shape.head, line⟩ :: given ∧
      BodyForm .statement shape.head given.length ∧
      (∀ located ∈ given, IsIdentifier located.piece) ∧ shape.arity = given.length + 1 := by
  cases opened with
  | expression opens => exact ⟨opens, [], rfl, .expression, nofun, rfl⟩
  | print opens => exact ⟨opens, [], rfl, .print, nofun, rfl⟩
  | declaration opens _ nameLine named =>
    exact ⟨opens, [_], rfl, .declaration, by simpa [IsIdentifier] using named, rfl⟩

/-- Behind complete statements, a piece that is rejected shows a defect of the next one. -/
theorem ReachedStmt.defect {state : StmtState} {located : LocatedPiece}
    (reached : ReachedStmt taken state) (rejects : StmtRejection state located failure)
    (balanced : LeavesOpen 0 earlier) :
    Defect .statement (earlier ++ taken ++ located :: rest) failure := by
  cases rejects with
  | noForm line =>
    cases reached
    exact .inl ⟨earlier, rest, by simp, balanced⟩
  | atom text line =>
    cases reached
    exact ⟨rfl, earlier, rest, by simp, balanced⟩
  | @unknown text line unknown =>
    cases reached with
    | formHead opens =>
      have form := balanced.opens_statement opens (⟨.atom text, line⟩ :: rest)
      exact ⟨.statement, rest, by simpa using form, fun _ known => unknown known.mem_heads⟩
  | head noAtom =>
    cases reached with
    | formHead opens =>
      simpa using (balanced.opens_statement opens (located :: rest)).missingHead noAtom
  | target headLine refused =>
    cases reached with
    | target opens =>
      have form := balanced.opens_statement opens (⟨.atom "var", headLine⟩ :: located :: rest)
      simpa using form.noName .declaration refused
  | @inside inner _ _ shape headLine rejects =>
    cases reached with
    | @body before _ _ _ _ opened reached =>
      by_cases started : inner = .start
      · subst started
        obtain ⟨closes, rfl, rfl⟩ := rejects.eq_of_start
        obtain rfl := reached.eq_nil_of_start
        obtain ⟨opens, given, rfl, form, named, -⟩ := opened.exists_names
        have opened := balanced.opens_statement opens
          (⟨.atom shape.head, headLine⟩ :: (given ++ ⟨.closing, closes⟩ :: rest))
        simpa using opened.noBody form named
      · have holds : HoldsExpressions .statement (earlier ++ before) :=
          ⟨1, by simpa using balanced.append opened.leavesOpen, .inr Nat.one_pos⟩
        rw [← List.append_assoc]
        exact reached.defect rejects holds started
  | tooLong shape headLine s further =>
    cases reached with
    | @close _ body _ _ _ opened derived =>
      obtain ⟨opens, given, rfl, form, named, arity⟩ := opened.exists_names
      have opened := balanced.opens_statement opens
        (⟨.atom shape.head, headLine⟩ :: (given ++ body ++ located :: rest))
      rw [arity]
      simpa using opened.tooLong form named derived further

theorem program_defect {pieces : List LocatedPiece} (failed : program pieces = .error failure) :
    Defect .statement pieces failure := by
  obtain ⟨earlier, done, rest, rfl, derived, nonempty, failed⟩ := program_eq_error failed
  rcases consume_eq_error ReachedStmt reachedStmt_step .opening failed with
    ⟨rfl, final, atEnd⟩ | ⟨read, located, behind, final, rfl, before, refused⟩
  · have leaves := derived.leavesOpen.append atEnd.leavesOpen
    unfold LeavesOpen at leaves
    have inside : final.depth ≠ 0 := by
      intro outside
      rw [StmtState.depth_eq_zero_iff.1 outside] at atEnd
      cases atEnd
      exact nonempty rfl
    exact .inl (by rw [List.nil_append] at leaves; omega)
  · rw [← List.append_assoc]
    exact before.defect (stmtRejection_of_step refused) derived.leavesOpen

end Statements

/-! ## Source texts -/

/-- A text that cannot be read has the defect that the error names, with its line. -/
theorem read_error_names_defect :
    (∀ (source : String) (failure : ReadError), Program.read source = .error failure →
      Defect .statement (Piece.ofSource source) failure) ∧
    (∀ (source : String) (failure : ReadError), Expr.read source = .error failure →
      Defect .expression (Piece.ofSource source) failure) := by
  constructor
  · intro source failure failed
    exact program_defect failed
  · intro source failure failed
    rcases exprRead_eq_error_iff.1 failed with failed | ⟨e, extra, others, found, rfl⟩
    · exact expression_defect failed
    · obtain ⟨whole, pieces, derived⟩ := derives_of_expression found
      exact ⟨rfl, whole, e, extra.piece, others, pieces, derived⟩

/-- The head of a statement is no head of an expression, and an assignment has one value. -/
theorem read_error_names_nested_print :
    Program.read "(print\n(print 1))" = .error (.unknownForm "print" 2) ∧
      Defect .statement (Piece.ofSource "(print\n(print 1))") (.unknownForm "print" 2) ∧
      Expr.read "(= x y z)" = .error (.wrongArity "=" 3 1) ∧
      Defect .expression (Piece.ofSource "(= x y z)") (.wrongArity "=" 3 1) := by
  have statement : Program.read "(print\n(print 1))" = .error (.unknownForm "print" 2) := by
    have pieces : Piece.ofSource "(print\n(print 1))" =
        formPieces 1 1 2 "print" (formPieces 2 2 2 "print" [⟨.atom "1", 2⟩]) := by
      decide +kernel
    rw [Program.read, pieces]
    exact program_of_failure (by simp [formPieces]) rfl
  have expression : Expr.read "(= x y z)" = .error (.wrongArity "=" 3 1) := by
    have pieces : Piece.ofSource "(= x y z)" =
        formPieces 1 1 1 "=" [⟨.atom "x", 1⟩, ⟨.atom "y", 1⟩, ⟨.atom "z", 1⟩] := by
      decide +kernel
    rw [Expr.read, pieces]
    rfl
  obtain ⟨programs, exprs⟩ := read_error_names_defect
  exact ⟨statement, programs _ _ statement, expression, exprs _ _ expression⟩

end LoxForms.Reading
