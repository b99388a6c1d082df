import LoxForms.Proofs.Lines
import LoxForms.Proofs.Reading.Complete

/-! # Two readers in lockstep

Two readers that take pieces which differ in their lines only are in states of the same shape after
each step, and they fail together.  The lines of their states, results and errors stay related as
those of the pieces are (`program_alike`, `expression_alike`): no line is made up, none is mixed
with another, and none decides anything.
-/

namespace LoxForms

variable {related : UInt32 → UInt32 → Prop}

/-- The pieces are the same, and their lines are related. -/
structure LocatedPiece.Alike (related : UInt32 → UInt32 → Prop) (first second : LocatedPiece) :
    Prop where
  piece : first.piece = second.piece
  line : related first.line second.line

namespace Reading

variable {σ α β : Type}

/-! ## Outcomes -/

/-- Both fail alike, or both have results that are in the given relation. -/
inductive AlikeOutcome (related : UInt32 → UInt32 → Prop) (results : α → α → Prop) :
    Except ReadError α → Except ReadError α → Prop where
  | error {failure other : ReadError} (failures : ReadError.Alike related failure other) :
      AlikeOutcome related results (.error failure) (.error other)
  | ok {result other : α} (alike : results result other) :
      AlikeOutcome related results (.ok result) (.ok other)

theorem AlikeOutcome.bind {results : α → α → Prop} {others : β → β → Prop}
    {first second : Except ReadError α} {next another : α → Except ReadError β}
    (outcomes : AlikeOutcome related results first second)
    (continued : ∀ result other, results result other →
      AlikeOutcome related others (next result) (another other)) :
    AlikeOutcome related others (first >>= next) (second >>= another) := by
  cases outcomes with
  | error failures => exact .error failures
  | ok alike => exact continued _ _ alike

/-- Both go on in states that are in a relation, or both have results that are. -/
inductive AlikeProgress (states : σ → σ → Prop) (results : α → α → Prop) :
    Progress σ α → Progress σ α → Prop where
  | pending {state other : σ} (alike : states state other) :
      AlikeProgress states results (.pending state) (.pending other)
  | complete {result other : α} (alike : results result other) :
      AlikeProgress states results (.complete result) (.complete other)

/-- What is read, and the pieces after it. -/
def AlikeFront (related : UInt32 → UInt32 → Prop) (results : α → α → Prop)
    (first second : α × List LocatedPiece) : Prop :=
  results first.1 second.1 ∧ List.Forall₂ (LocatedPiece.Alike related) first.2 second.2

/-- Steps that keep two states alike make runs that do. -/
theorem consume_alike {step : σ → LocatedPiece → Except ReadError (Progress σ α)}
    {states : σ → σ → Prop} {results : α → α → Prop}
    (steps : ∀ {state other located another}, states state other →
      LocatedPiece.Alike related located another →
      AlikeOutcome related (AlikeProgress states results) (step state located)
        (step other another))
    {state other : σ} {pieces others : List LocatedPiece} (alike : states state other)
    (pieceByPiece : List.Forall₂ (LocatedPiece.Alike related) pieces others) :
    AlikeOutcome related (AlikeFront related results) (consume step state pieces)
      (consume step other others) := by
  induction pieceByPiece generalizing state other with
  | nil => exact .error .prematureTermination
  | @cons located another rest otherRest pieces later ih =>
    have outcomes := steps alike pieces
    rw [consume, consume]
    generalize step state located = outcome, step other another = otherOutcome at outcomes
    cases outcomes with
    | error failures => exact .error failures
    | ok progress =>
      cases progress with
      | pending next => exact ih next
      | complete results => exact .ok ⟨results, later⟩

/-! ## Expressions -/

theorem identifier_alike {located other : LocatedPiece}
    (pieces : LocatedPiece.Alike related located other) :
    AlikeOutcome related (Token.Alike related) (identifier located) (identifier other) := by
  obtain ⟨piece, line⟩ := located
  obtain ⟨_, otherLine⟩ := other
  obtain ⟨rfl, lines⟩ := pieces
  cases piece with
  | atom text =>
    simp only [identifier]
    split
    · exact .ok ⟨rfl, rfl, rfl, lines⟩
    · exact .error (.expectedIdentifier text lines)
  | opening => exact .error (.expectedIdentifier "(" lines)
  | closing => exact .error (.unexpectedClose lines)

theorem operator_alike (kind : TokenKind) (lexeme : String) {line other : UInt32}
    (lines : related line other) :
    Token.Alike related (Token.operator kind lexeme line) (Token.operator kind lexeme other) :=
  ⟨rfl, rfl, rfl, lines⟩

/-- The tables are asked by the head alone, so both find an operator or none. -/
theorem formExpr?_alike (head : String) {line other : UInt32} (lines : related line other)
    {operands others : List Expr} (alike : List.Forall₂ (Expr.Alike related) operands others) :
    Option.Rel (Expr.Alike related) (formExpr? head line operands)
      (formExpr? head other others) := by
  cases alike with
  | nil => exact .none
  | cons firsts rest =>
    cases rest with
    | nil =>
      by_cases group : head = "group"
      · simp only [formExpr?, if_pos group]
        exact .some (.grouping firsts)
      · simp only [formExpr?, if_neg group]
        cases Operator.unary? head with
        | none => exact .none
        | some kind => exact .some (.unary (operator_alike kind head lines) firsts)
    | cons seconds rest =>
      cases rest with
      | nil =>
        simp only [formExpr?]
        cases Operator.binary? head with
        | none => exact .none
        | some kind => exact .some (.binary firsts (operator_alike kind head lines) seconds)
      | cons _ _ => exact .none

theorem formExpr_alike (head : String) {line other : UInt32} (lines : related line other)
    {operands others : List Expr} (alike : List.Forall₂ (Expr.Alike related) operands others) :
    AlikeOutcome related (Expr.Alike related) (formExpr head line operands)
      (formExpr head other others) := by
  have forms := formExpr?_alike head lines alike
  rw [formExpr, formExpr, alike.length_eq]
  generalize formExpr? head line operands = form, formExpr? head other others = another at forms
  cases forms with
  | some forms => exact .ok forms
  | none =>
    dsimp only
    split
    · exact .error (.wrongArity head others.length lines)
    · exact .error (.unknownForm head lines)

inductive Frame.Alike (related : UInt32 → UInt32 → Prop) : Frame → Frame → Prop where
  | value {name otherName : Token} {line other : UInt32}
      (names : Token.Alike related name otherName) (lines : related line other) :
      Alike related (.value name line) (.value otherName other)
  | operands (head : String) {line other : UInt32} {reversed others : List Expr}
      (lines : related line other) (alike : List.Forall₂ (Expr.Alike related) reversed others) :
      Alike related (.operands head line reversed) (.operands head other others)

namespace ExprState

inductive Alike (related : UInt32 → UInt32 → Prop) : ExprState → ExprState → Prop where
  | expression {frames others : List Frame}
      (alike : List.Forall₂ (Frame.Alike related) frames others) :
      Alike related (.expression frames) (.expression others)
  | formHead {frames others : List Frame}
      (alike : List.Forall₂ (Frame.Alike related) frames others) :
      Alike related (.formHead frames) (.formHead others)
  | target {line other : UInt32} {frames others : List Frame} (lines : related line other)
      (alike : List.Forall₂ (Frame.Alike related) frames others) :
      Alike related (.target line frames) (.target other others)
  | close {name otherName : Token} {value otherValue : Expr} {line other : UInt32}
      {frames others : List Frame} (names : Token.Alike related name otherName)
      (values : Expr.Alike related value otherValue) (lines : related line other)
      (alike : List.Forall₂ (Frame.Alike related) frames others) :
      Alike related (.close name value line frames) (.close otherName otherValue other others)

theorem Alike.start : Alike related .start .start := .expression .nil

theorem deliver_alike {e other : Expr} {frames others : List Frame}
    (expressions : Expr.Alike related e other)
    (alike : List.Forall₂ (Frame.Alike related) frames others) :
    AlikeProgress (Alike related) (Expr.Alike related) (deliver e frames)
      (deliver other others) := by
  cases alike with
  | nil => exact .complete expressions
  | cons frame outer =>
    cases frame with
    | value names lines => exact .pending (.close names expressions lines outer)
    | operands head lines operands =>
      exact .pending (.expression (.cons (.operands head lines (.cons expressions operands)) outer))

theorem Alike.step {state other : ExprState} {located another : LocatedPiece}
    (states : Alike related state other) (pieces : LocatedPiece.Alike related located another) :
    AlikeOutcome related (AlikeProgress (Alike related) (Expr.Alike related)) (state.step located)
      (other.step another) := by
  have names := identifier_alike pieces
  obtain ⟨piece, line⟩ := located
  obtain ⟨_, otherLine⟩ := another
  obtain ⟨rfl, lines⟩ := pieces
  cases states with
  | expression alike =>
    cases piece with
    | atom text => exact .ok (deliver_alike (.literal _) alike)
    | opening => exact .ok (.pending (.formHead alike))
    | closing =>
      cases alike with
      | nil => exact .error (.unexpectedClose lines)
      | cons frame outer =>
        cases frame with
        | value => exact .error (.unexpectedClose lines)
        | operands head headLines operands =>
          exact (formExpr_alike head headLines (List.rel_reverse operands)).bind
            fun _ _ forms => .ok (deliver_alike forms outer)
  | formHead alike =>
    cases piece with
    | atom text =>
      simp only [ExprState.step]
      split
      · exact .ok (.pending (.target lines alike))
      · exact .ok (.pending (.expression (.cons (.operands text lines .nil) alike)))
    | opening => exact .error (.missingHead lines)
    | closing => exact .error (.missingHead lines)
  | target headLines alike =>
    exact names.bind fun _ _ targets =>
      .ok (.pending (.expression (.cons (.value targets headLines) alike)))
  | close targets values headLines alike =>
    cases piece with
    | closing => exact .ok (deliver_alike (.assign targets values) alike)
    | atom text => exact .error (.wrongArity "=" 3 headLines)
    | opening => exact .error (.wrongArity "=" 3 headLines)

end ExprState

variable {pieces others : List LocatedPiece}

theorem expression_alike (alike : List.Forall₂ (LocatedPiece.Alike related) pieces others) :
    AlikeOutcome related (AlikeFront related (Expr.Alike related)) (expression pieces)
      (expression others) :=
  consume_alike ExprState.Alike.step .start alike

/-! ## Statements and programs -/

inductive Shape.Alike (related : UInt32 → UInt32 → Prop) : Shape → Shape → Prop where
  | expression : Alike related .expression .expression
  | print : Alike related .print .print
  | declaration {name otherName : Token} (names : Token.Alike related name otherName) :
      Alike related (.declaration name) (.declaration otherName)

theorem Shape.Alike.head_eq {shape otherShape : Shape} (shapes : Alike related shape otherShape) :
    shape.head = otherShape.head := by
  cases shapes <;> rfl

theorem Shape.Alike.arity_eq {shape otherShape : Shape}
    (shapes : Alike related shape otherShape) : shape.arity = otherShape.arity := by
  cases shapes <;> rfl

theorem Shape.Alike.withBody {shape otherShape : Shape} {body otherBody : Expr}
    (shapes : Alike related shape otherShape) (bodies : Expr.Alike related body otherBody) :
    Stmt.Alike related (shape.withBody body) (otherShape.withBody otherBody) := by
  cases shapes with
  | expression => exact .expression bodies
  | print => exact .print bodies
  | declaration names => exact .declaration names bodies

namespace StmtState

inductive Alike (related : UInt32 → UInt32 → Prop) : StmtState → StmtState → Prop where
  | opening : Alike related .opening .opening
  | formHead : Alike related .formHead .formHead
  | target {line other : UInt32} (lines : related line other) :
      Alike related (.target line) (.target other)
  | body {shape otherShape : Shape} {line other : UInt32} {inner otherInner : ExprState}
      (shapes : Shape.Alike related shape otherShape) (lines : related line other)
      (inners : ExprState.Alike related inner otherInner) :
      Alike related (.body shape line inner) (.body otherShape other otherInner)
  | close {shape otherShape : Shape} {line other : UInt32} {statement otherStatement : Stmt}
      (shapes : Shape.Alike related shape otherShape) (lines : related line other)
      (statements : Stmt.Alike related statement otherStatement) :
      Alike related (.close shape line statement) (.close otherShape other otherStatement)

theorem Alike.step {state other : StmtState} {located another : LocatedPiece}
    (states : Alike related state other) (pieces : LocatedPiece.Alike related located another) :
    AlikeOutcome related (AlikeProgress (Alike related) (Stmt.Alike related)) (state.step located)
      (other.step another) := by
  have names := identifier_alike pieces
  have inside {inner otherInner : ExprState} (inners : ExprState.Alike related inner otherInner) :=
    inners.step pieces
  obtain ⟨piece, line⟩ := located
  obtain ⟨_, otherLine⟩ := another
  obtain ⟨rfl, lines⟩ := pieces
  cases states with
  | opening =>
    cases piece with
    | opening => exact .ok (.pending .formHead)
    | closing => exact .error (.unexpectedClose lines)
    | atom text => exact .error (.expectedForm text lines)
  | formHead =>
    cases piece with
    | atom text =>
      rw [step_formHead, step_formHead]
      split
      next => exact .ok (.pending (.body .expression lines .start))
      next =>
        split
        next => exact .ok (.pending (.body .print lines .start))
        next =>
          split
          next => exact .ok (.pending (.target lines))
          next => exact .error (.unknownForm text lines)
    | opening => exact .error (.missingHead lines)
    | closing => exact .error (.missingHead lines)
  | target headLines =>
    exact names.bind fun _ _ targets =>
      .ok (.pending (.body (.declaration targets) headLines .start))
  | body shapes headLines inners =>
    refine (inside inners).bind fun _ _ progress => ?_
    cases progress with
    | pending next => exact .ok (.pending (.body shapes headLines next))
    | complete bodies => exact .ok (.pending (.close shapes headLines (shapes.withBody bodies)))
  | close shapes headLines statements =>
    cases piece with
    | closing => exact .ok (.complete statements)
    | atom text =>
      simp only [StmtState.step, shapes.head_eq, shapes.arity_eq]
      exact .error (.wrongArity _ _ headLines)
    | opening =>
      simp only [StmtState.step, shapes.head_eq, shapes.arity_eq]
      exact .error (.wrongArity _ _ headLines)

end StmtState

theorem statement_alike (alike : List.Forall₂ (LocatedPiece.Alike related) pieces others) :
    AlikeOutcome related (AlikeFront related (Stmt.Alike related)) (statement pieces)
      (statement others) :=
  consume_alike StmtState.Alike.step .opening alike

theorem program_alike (alike : List.Forall₂ (LocatedPiece.Alike related) pieces others) :
    AlikeOutcome related (Program.Alike related) (program pieces) (program others) := by
  fun_induction program pieces generalizing others with
  | case1 pieces empty =>
    rw [List.isEmpty_iff.1 empty] at alike
    cases alike
    rw [program]
    exact .ok .nil
  | case2 pieces nonempty failure failed =>
    have others_ne_nil : others ≠ [] := by
      rintro rfl
      exact nonempty (List.isEmpty_iff.2 (List.forall₂_nil_right_iff.1 alike))
    have outcomes := statement_alike alike
    rw [failed] at outcomes
    generalize found : statement others = outcome at outcomes
    cases outcomes with
    | error failures =>
      rw [program_of_failure others_ne_nil found]
      exact .error failures
  | case3 pieces _ first rest found ih =>
    have outcomes := statement_alike alike
    rw [found] at outcomes
    generalize otherFound : statement others = outcome at outcomes
    cases outcomes with
    | @ok _ otherFront fronts =>
      rw [program_of_statement otherFound]
      have rests := ih fronts.2
      generalize program rest = remaining, program otherFront.2 = otherRemaining at rests
      cases rests with
      | error failures => exact .error failures
      | ok statements => exact .ok (.cons fronts.1 statements)

/-! ## Source texts -/

variable {first second : String}

theorem programRead_alike
    (alike : List.Forall₂ (LocatedPiece.Alike related) (Piece.ofSource first)
      (Piece.ofSource second)) :
    AlikeOutcome related (Program.Alike related) (Program.read first) (Program.read second) :=
  program_alike alike

theorem exprRead_alike
    (alike : List.Forall₂ (LocatedPiece.Alike related) (Piece.ofSource first)
      (Piece.ofSource second)) :
    AlikeOutcome related (Expr.Alike related) (Expr.read first) (Expr.read second) := by
  have outcomes := expression_alike alike
  rw [Expr.read, Expr.read]
  generalize expression (Piece.ofSource first) = outcome,
    expression (Piece.ofSource second) = another at outcomes
  cases outcomes with
  | error failures => exact .error failures
  | @ok front otherFront fronts =>
    obtain ⟨e, rest⟩ := front
    obtain ⟨otherExpr, otherRest⟩ := otherFront
    obtain ⟨expressions, rests⟩ := fronts
    cases rests with
    | nil => exact .ok expressions
    | cons extras _ => exact .error (.trailingInput extras.line)

/-! ## Lines of one reader -/

section Lines

variable {source : String} {line : UInt32}

/-- A reader beside itself: its lines are those of its pieces. -/
theorem alike_self (pieces : List LocatedPiece) :
    List.Forall₂ (LocatedPiece.Alike fun line _ => ∃ located ∈ pieces, located.line = line) pieces
      pieces :=
  List.forall₂_same.2 fun located member => ⟨rfl, located, member, rfl⟩

theorem exists_piece_of_mem_tokenLines {program : Program}
    (accepted : Program.read source = .ok program) (member : line ∈ program.tokenLines) :
    ∃ located ∈ Piece.ofSource source, located.line = line := by
  have outcomes := programRead_alike (alike_self (Piece.ofSource source))
  rw [accepted] at outcomes
  cases outcomes with
  | ok programs => exact List.forall₂_same.1 programs.tokenLines line member

theorem exists_piece_of_mem_lines {failure : ReadError}
    (failed : Program.read source = .error failure) (member : line ∈ failure.lines) :
    ∃ located ∈ Piece.ofSource source, located.line = line := by
  have outcomes := programRead_alike (alike_self (Piece.ofSource source))
  rw [failed] at outcomes
  cases outcomes with
  | error failures => exact List.forall₂_same.1 failures.lines line member

end Lines

end Reading

end LoxForms
