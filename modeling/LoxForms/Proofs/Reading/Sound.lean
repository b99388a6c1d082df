import LoxForms.Proofs.Reading.Complete

/-! # Whatever is read has a derivation

The reader keeps the forms around its place in the text as frames.  `Opened` says which pieces lead
to a list of frames, `Reached` and `ReachedStmt` which pieces lead to a state.  Each step of the
reader extends the pieces by one and keeps this, and the last one leaves a derivation of all pieces
that were taken.
-/

namespace LoxForms.Reading

/-! ## Invariants of a run -/

/-- What holds of every start is carried through a run to what holds of its result. -/
theorem consume_invariant {σ α : Type}
    {step : σ → LocatedPiece → Except ReadError (Progress σ α)}
    (inv : List LocatedPiece → σ → Prop) (post : List LocatedPiece → α → Prop)
    (preserved : ∀ {taken state located next}, inv taken state →
      step state located = .ok (.pending next) → inv (taken ++ [located]) next)
    (finished : ∀ {taken state located result}, inv taken state →
      step state located = .ok (.complete result) → post (taken ++ [located]) result)
    {taken pieces rest : List LocatedPiece} {state : σ} {result : α} (holds : inv taken state)
    (consumed : consume step state pieces = .ok (result, rest)) :
    ∃ read, pieces = read ++ rest ∧ post (taken ++ read) result := by
  -- The pieces taken so far grow with each step, so they vary with the state.
  induction pieces generalizing taken state with
  | nil => simp [consume] at consumed
  | cons located others ih =>
    cases stepped : step state located with
    | error failure => simp [consume_cons_error stepped] at consumed
    | ok progress =>
      rw [consume_cons stepped] at consumed
      cases progress with
      | pending next =>
        obtain ⟨read, rfl, done⟩ := ih (preserved holds stepped) consumed
        exact ⟨located :: read, rfl, by simpa using done⟩
      | complete last =>
        simp only [resume, Except.ok.injEq, Prod.mk.injEq] at consumed
        obtain ⟨rfl, rfl⟩ := consumed
        exact ⟨[located], rfl, finished holds stepped⟩

/-! ## Expressions -/

/-- The pieces before an expression that is to be read inside the frames. -/
inductive Opened : List LocatedPiece → List Frame → Prop where
  | outermost : Opened [] []
  | value {taken : List LocatedPiece} {frames : List Frame} (opens line nameLine : UInt32)
      {name : String} (named : Atom.isIdentifier name = true) (outer : Opened taken frames) :
      Opened (taken ++ [⟨.opening, opens⟩, ⟨.atom "=", line⟩, ⟨.atom name, nameLine⟩])
        (.value ⟨.identifier, name, none, nameLine⟩ line :: frames)
  | head {taken : List LocatedPiece} {frames : List Frame} (opens line : UInt32) {head : String}
      (notAssign : head ≠ "=") (outer : Opened taken frames) :
      Opened (taken ++ [⟨.opening, opens⟩, ⟨.atom head, line⟩])
        (.operands head line [] :: frames)
  | operand {taken pieces : List LocatedPiece} {frames : List Frame} {head : String}
      {line : UInt32} {reversed : List Expr} {e : Expr}
      (before : Opened taken (.operands head line reversed :: frames))
      (derived : DerivesExpr pieces e) :
      Opened (taken ++ pieces) (.operands head line (e :: reversed) :: frames)

/-- The pieces that lead to a state inside an expression. -/
inductive Reached : List LocatedPiece → ExprState → Prop where
  | expression {taken : List LocatedPiece} {frames : List Frame} (opened : Opened taken frames) :
      Reached taken (.expression frames)
  | formHead {taken : List LocatedPiece} {frames : List Frame} (opens : UInt32)
      (opened : Opened taken frames) :
      Reached (taken ++ [⟨.opening, opens⟩]) (.formHead frames)
  | target {taken : List LocatedPiece} {frames : List Frame} (opens line : UInt32)
      (opened : Opened taken frames) :
      Reached (taken ++ [⟨.opening, opens⟩, ⟨.atom "=", line⟩]) (.target line frames)
  | close {taken pieces : List LocatedPiece} {frames : List Frame} {name : Token} {line : UInt32}
      {e : Expr} (opened : Opened taken (.value name line :: frames))
      (derived : DerivesExpr pieces e) :
      Reached (taken ++ pieces) (.close name e line frames)

/-- The pieces that lead to the outcome of a step. -/
def ReachedOutcome (taken : List LocatedPiece) : Progress ExprState Expr → Prop
  | .pending state => Reached taken state
  | .complete e => DerivesExpr taken e

theorem reached_deliver {taken pieces : List LocatedPiece} {frames : List Frame} {e : Expr}
    (opened : Opened taken frames) (derived : DerivesExpr pieces e) :
    ReachedOutcome (taken ++ pieces) (ExprState.deliver e frames) := by
  cases frames with
  | nil =>
    cases opened
    exact derived
  | cons frame frames =>
    cases frame with
    | value name line => exact .close opened derived
    | operands head line reversed => exact .expression (.operand opened derived)

/-- A form takes one operand or two, and its head says which expression it is. -/
theorem formExpr_eq_ok {head : String} {line : UInt32} {operands : List Expr} {form : Expr}
    (formed : formExpr head line operands = .ok form) :
    (∃ inner, operands = [inner] ∧ head = "group" ∧ form = .grouping inner) ∨
      (∃ kind operand, operands = [operand] ∧ UnaryOperator head kind ∧
        form = .unary ⟨kind, head, none, line⟩ operand) ∨
      (∃ kind left right, operands = [left, right] ∧ BinaryOperator head kind ∧
        form = .binary left ⟨kind, head, none, line⟩ right) := by
  have known : formExpr? head line operands = some form := by
    unfold formExpr at formed
    split at formed
    next found =>
      cases formed
      exact found
    next => split at formed <;> cases formed
  match operands with
  | [] => cases known
  | [operand] =>
    simp only [formExpr?] at known
    split at known
    next group =>
      cases known
      exact .inl ⟨operand, rfl, group, rfl⟩
    next =>
      obtain ⟨kind, found, rfl⟩ := Option.map_eq_some_iff.1 known
      exact .inr (.inl ⟨kind, operand, rfl, unary?_eq_some_iff.1 found, rfl⟩)
  | [left, right] =>
    simp only [formExpr?] at known
    obtain ⟨kind, found, rfl⟩ := Option.map_eq_some_iff.1 known
    exact .inr (.inr ⟨kind, left, right, rfl, binary?_eq_some_iff.1 found, rfl⟩)
  | _ :: _ :: _ :: _ => cases known

/-- The closing parenthesis of a form ends a derivation, which starts at its opening one. -/
theorem derives_formExpr {taken : List LocatedPiece} {frames : List Frame} {head : String}
    {line : UInt32} {reversed : List Expr} {form : Expr}
    (opened : Opened taken (.operands head line reversed :: frames))
    (formed : formExpr head line reversed.reverse = .ok form) (closes : UInt32) :
    ∃ outer pieces, taken ++ [⟨.closing, closes⟩] = outer ++ pieces ∧ Opened outer frames ∧
      DerivesExpr pieces form := by
  rcases formExpr_eq_ok formed with ⟨inner, only, rfl, rfl⟩ | ⟨kind, operand, only, known, rfl⟩ |
    ⟨kind, left, right, both, known, rfl⟩
  · rw [List.reverse_eq_iff] at only
    subst only
    cases opened with
    | operand before derived =>
      cases before with
      | head opens _ _ outer =>
        exact ⟨_, _, by simp [formPieces], outer, .grouping opens line closes derived⟩
  · rw [List.reverse_eq_iff] at only
    subst only
    cases opened with
    | operand before derived =>
      cases before with
      | head opens _ _ outer =>
        exact ⟨_, _, by simp [formPieces], outer, .unary opens line closes known derived⟩
  · rw [List.reverse_eq_iff] at both
    subst both
    cases opened with
    | operand before rightDerived =>
      cases before with
      | operand before leftDerived =>
        cases before with
        | head opens _ _ outer =>
          exact ⟨_, _, by simp [formPieces], outer,
            .binary opens line closes known leftDerived rightDerived⟩

theorem reached_step {taken : List LocatedPiece} {state : ExprState} {located : LocatedPiece}
    {progress : Progress ExprState Expr} (reached : Reached taken state)
    (stepped : state.step located = .ok progress) :
    ReachedOutcome (taken ++ [located]) progress := by
  cases exprStep_of_step stepped with
  | literal text line frames =>
    cases reached with
    | expression opened => exact reached_deliver opened (.literal text line)
  | opening line frames =>
    cases reached with
    | expression opened => exact .formHead line opened
  | closing line frames formed =>
    cases reached with
    | expression opened =>
      obtain ⟨outer, pieces, same, around, derived⟩ := derives_formExpr opened formed line
      rw [same]
      exact reached_deliver around derived
  | assign line frames =>
    cases reached with
    | formHead opens opened =>
      simpa [ReachedOutcome] using Reached.target opens line opened
  | @head text line frames notAssign =>
    cases reached with
    | formHead opens opened =>
      simpa [ReachedOutcome] using Reached.expression (.head opens line notAssign opened)
  | target line headLine frames named =>
    cases reached with
    | target opens _ opened =>
      simpa [ReachedOutcome] using Reached.expression (.value opens headLine line named opened)
  | close name value line headLine frames =>
    cases reached with
    | close opened derived =>
      cases opened with
      | value opens _ nameLine named outer =>
        have assignment := reached_deliver outer
          (.assign opens headLine nameLine line named derived)
        simpa [formPieces] using assignment

theorem derives_of_expression {pieces rest : List LocatedPiece} {e : Expr}
    (read : expression pieces = .ok (e, rest)) :
    ∃ taken, pieces = taken ++ rest ∧ DerivesExpr taken e :=
  consume_invariant Reached DerivesExpr reached_step reached_step (.expression .outermost) read

/-! ## Statements and programs -/

/-- The pieces of a statement before its body, and the line of its head. -/
inductive OpenedShape : List LocatedPiece → Shape → UInt32 → Prop where
  | expression (opens line : UInt32) :
      OpenedShape [⟨.opening, opens⟩, ⟨.atom "expr", line⟩] .expression line
  | print (opens line : UInt32) :
      OpenedShape [⟨.opening, opens⟩, ⟨.atom "print", line⟩] .print line
  | declaration (opens line nameLine : UInt32) {name : String}
      (named : Atom.isIdentifier name = true) :
      OpenedShape [⟨.opening, opens⟩, ⟨.atom "var", line⟩, ⟨.atom name, nameLine⟩]
        (.declaration ⟨.identifier, name, none, nameLine⟩) line

/-- The pieces that lead to a state of a statement. -/
inductive ReachedStmt : List LocatedPiece → StmtState → Prop where
  | opening : ReachedStmt [] .opening
  | formHead (opens : UInt32) : ReachedStmt [⟨.opening, opens⟩] .formHead
  | target (opens line : UInt32) :
      ReachedStmt [⟨.opening, opens⟩, ⟨.atom "var", line⟩] (.target line)
  | body {taken pieces : List LocatedPiece} {shape : Shape} {line : UInt32} {inner : ExprState}
      (opened : OpenedShape taken shape line) (reached : Reached pieces inner) :
      ReachedStmt (taken ++ pieces) (.body shape line inner)
  | close {taken pieces : List LocatedPiece} {shape : Shape} {line : UInt32} {e : Expr}
      (opened : OpenedShape taken shape line) (derived : DerivesExpr pieces e) :
      ReachedStmt (taken ++ pieces) (.close shape line (shape.withBody e))

/-- The pieces that lead to the outcome of a step of a statement. -/
def ReachedStmtOutcome (taken : List LocatedPiece) : Progress StmtState Stmt → Prop
  | .pending state => ReachedStmt taken state
  | .complete s => DerivesStmt taken s

theorem reachedStmt_body {taken : List LocatedPiece} {shape : Shape} {line : UInt32}
    (opened : OpenedShape taken shape line) : ReachedStmt taken (.body shape line .start) := by
  rw [← List.append_nil taken]
  exact .body opened (.expression .outermost)

theorem derives_withBody {taken pieces : List LocatedPiece} {shape : Shape} {line : UInt32}
    {e : Expr} (opened : OpenedShape taken shape line) (derived : DerivesExpr pieces e)
    (closes : UInt32) :
    DerivesStmt (taken ++ pieces ++ [⟨.closing, closes⟩]) (shape.withBody e) := by
  cases opened with
  | expression opens => exact .expression opens line closes derived
  | print opens => exact .print opens line closes derived
  | declaration opens _ nameLine named => exact .declaration opens line nameLine closes named derived

theorem reachedStmt_step {taken : List LocatedPiece} {state : StmtState} {located : LocatedPiece}
    {progress : Progress StmtState Stmt} (reached : ReachedStmt taken state)
    (stepped : state.step located = .ok progress) :
    ReachedStmtOutcome (taken ++ [located]) progress := by
  cases stmtStep_of_step stepped with
  | opening line =>
    cases reached with
    | opening => exact .formHead line
  | expression line =>
    cases reached with
    | formHead opens => exact reachedStmt_body (.expression opens line)
  | print line =>
    cases reached with
    | formHead opens => exact reachedStmt_body (.print opens line)
  | declaration line =>
    cases reached with
    | formHead opens => exact .target opens line
  | target line headLine named =>
    cases reached with
    | target opens => exact reachedStmt_body (.declaration opens headLine line named)
  | inside shape headLine steps =>
    cases reached with
    | body opened inner =>
      rw [List.append_assoc]
      exact .body opened (reached_step inner steps.step_eq)
  | bodyEnd shape headLine steps =>
    cases reached with
    | body opened inner =>
      rw [List.append_assoc]
      exact .close opened (reached_step inner steps.step_eq)
  | close shape line headLine s =>
    cases reached with
    | close opened derived => exact derives_withBody opened derived line

theorem derives_of_statement {pieces rest : List LocatedPiece} {s : Stmt}
    (read : statement pieces = .ok (s, rest)) :
    ∃ taken, pieces = taken ++ rest ∧ DerivesStmt taken s :=
  consume_invariant ReachedStmt DerivesStmt reachedStmt_step reachedStmt_step .opening read

theorem derives_of_program {pieces : List LocatedPiece} {statements : Program}
    (read : program pieces = .ok statements) : DerivesProgram pieces statements := by
  fun_induction program pieces generalizing statements with
  | case1 pieces empty =>
    cases read
    rw [List.isEmpty_iff.1 empty]
    exact .nil
  | case2 => cases read
  | case3 pieces _ first rest found ih =>
    cases others : program rest with
    | error failure =>
      rw [others] at read
      cases read
    | ok remaining =>
      rw [others] at read
      cases read
      obtain ⟨taken, rfl, derived⟩ := derives_of_statement found
      exact .cons derived (ih others)

theorem expression_eq_ok_iff {pieces : List LocatedPiece} {e : Expr} :
    expression pieces = .ok (e, []) ↔ DerivesExpr pieces e := by
  constructor
  · intro read
    obtain ⟨taken, same, derived⟩ := derives_of_expression read
    rw [same, List.append_nil]
    exact derived
  · intro derived
    simpa using derived.expression_append []

theorem program_eq_ok_iff {pieces : List LocatedPiece} {statements : Program} :
    program pieces = .ok statements ↔ DerivesProgram pieces statements :=
  ⟨derives_of_program, DerivesProgram.program_eq⟩

/-! ## Source texts -/

theorem exprRead_eq_ok_iff {source : String} {e : Expr} :
    Expr.read source = .ok e ↔ DerivesExpr (Piece.ofSource source) e := by
  rw [← expression_eq_ok_iff]
  unfold Expr.read
  split
  next failed => simp [failed]
  next found => simp [found]
  next found => simp [found]

theorem programRead_eq_ok_iff {source : String} {statements : Program} :
    Program.read source = .ok statements ↔ DerivesProgram (Piece.ofSource source) statements :=
  program_eq_ok_iff

/-- Reading accepts exactly the texts whose pieces derive a tree, and yields that tree; no pieces
derive two of them. -/
theorem read_eq_ok_iff_derives :
    (∀ (source : String) (e : Expr),
      Expr.read source = .ok e ↔ DerivesExpr (Piece.ofSource source) e) ∧
    (∀ (source : String) (statements : Program),
      Program.read source = .ok statements ↔
        DerivesProgram (Piece.ofSource source) statements) ∧
    (∀ (pieces : List LocatedPiece) (first second : Expr),
      DerivesExpr pieces first → DerivesExpr pieces second → first = second) ∧
    (∀ (pieces : List LocatedPiece) (first second : Program),
      DerivesProgram pieces first → DerivesProgram pieces second → first = second) :=
  ⟨fun _ _ => exprRead_eq_ok_iff, fun _ _ => programRead_eq_ok_iff,
    fun _ _ _ derived again => derived.unique again,
    fun _ _ _ derived again => derived.unique again⟩

/-- The minus before one operand is a negation, on the line of its own form. -/
theorem read_negation_on_second_line :
    DerivesExpr (Piece.ofSource "\n(- x)")
        (.unary ⟨.minus, "-", none, 2⟩ (.literal (.string "x"))) ∧
      DerivesProgram (Piece.ofSource "(print\n(- x))")
        [.print (.unary ⟨.minus, "-", none, 2⟩ (.literal (.string "x")))] ∧
      Expr.read "\n(- x)" = .ok (.unary ⟨.minus, "-", none, 2⟩ (.literal (.string "x"))) ∧
      Program.read "(print\n(- x))" =
        .ok [.print (.unary ⟨.minus, "-", none, 2⟩ (.literal (.string "x")))] ∧
      Expr.unary ⟨.minus, "-", none, 2⟩ (.literal (Atom.value "x")) =
        .unary ⟨.minus, "-", none, 2⟩ (.literal (.string "x")) ∧
      [Stmt.print (.unary ⟨.minus, "-", none, 2⟩ (.literal (Atom.value "x")))] =
        [.print (.unary ⟨.minus, "-", none, 2⟩ (.literal (.string "x")))] := by
  obtain ⟨exprs, programs, uniqueExpr, uniqueProgram⟩ := read_eq_ok_iff_derives
  have word : Atom.value "x" = .string "x" := rfl
  have negation : Piece.ofSource "\n(- x)" = formPieces 2 2 2 "-" [⟨.atom "x", 2⟩] := by
    decide +kernel
  have printed : Piece.ofSource "(print\n(- x))" =
      formPieces 1 1 2 "print" (formPieces 2 2 2 "-" [⟨.atom "x", 2⟩]) ++ [] := by
    decide +kernel
  have derived := DerivesExpr.unary 2 2 2 .minus (.literal "x" 2)
  have statement := DerivesProgram.cons (.print 1 1 2 derived) .nil
  rw [← negation] at derived
  rw [← printed] at statement
  have derivedWord := derived
  have statementWord := statement
  rw [word] at derivedWord statementWord
  exact ⟨derivedWord, statementWord, (exprs _ _).2 derivedWord, (programs _ _).2 statementWord,
    uniqueExpr _ _ _ derived derivedWord, uniqueProgram _ _ _ statement statementWord⟩

end LoxForms.Reading
