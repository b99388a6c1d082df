import LoxForms.Proofs.Reading.Balance
import LoxForms.Proofs.Reading.Calls

/-! # Reading with a cursor

Every procedure returns, from every cursor and on all pieces, whether or not a text is made of them:
a form lies behind its opening parenthesis, and an operand or a statement takes at least one piece,
so there are fewer pieces left for what is read next.  The procedures read what the machines of
`expression` and `statement` read (`Runs`, `Reads`), the frames of the machine being the calls that
have not returned.  What a call reads is therefore what the pieces that it takes derive, and these
close the forms that they open (`procedures_return_in_bounds`).
-/

namespace LoxForms.Reading.Descent

variable {α β σ τ : Type} {pieces : Pieces}

/-! ## Calls and machines -/

/-- The call takes pieces as the machine does from the state, which goes on as said with the
result. -/
def Runs (pieces : Pieces)
    (step : σ → LocatedPiece → Except ReadError (Progress σ τ)) (procedure : Descent α)
    (start : Nat) (state : σ) (next : α → Progress σ τ) : Prop :=
  Meets pieces procedure start
    (fun result final => start < final ∧
      consume step state (pieces.drop start) = resume step (next result) (pieces.drop final))
    (fun failure => consume step state (pieces.drop start) = .error failure)

/-- The call reads what the reader reads from the pieces that are left, and leaves the same ones. -/
def Reads (pieces : Pieces) (procedure : Descent α)
    (reader : List LocatedPiece → Except ReadError (α × List LocatedPiece)) (start : Nat) : Prop :=
  Meets pieces procedure start
    (fun result final => reader (pieces.drop start) = .ok (result, pieces.drop final))
    (fun failure => reader (pieces.drop start) = .error failure)

section Machines

variable {step : σ → LocatedPiece → Except ReadError (Progress σ τ)} {start : Nat} {state : σ}

/-- A check that the machine makes too is a step of the machine. -/
theorem runs_take {check : LocatedPiece → Except ReadError α} {next : α → Progress σ τ}
    (stepped : ∀ located rest, pieces.drop start = located :: rest →
      step state located = (check located).map next) :
    Runs pieces step (pieces.take check) start state next := by
  apply (meets_take check start).mono
  · rintro result final - ⟨moved, located, left, checked⟩
    have steps := stepped located _ left
    rw [checked] at steps
    exact ⟨moved, by rw [left, consume_cons steps]⟩
  · rintro failure (⟨rfl, left⟩ | ⟨located, rest, left, checked⟩)
    · rw [left]
      rfl
    · have steps := stepped located rest left
      rw [checked] at steps
      rw [left, consume_cons_error steps]

theorem Runs.bind {first : Descent β} {next : β → Descent α} {following : β → σ}
    {after : α → Progress σ τ}
    (runs : Runs pieces step first start state fun result => .pending (following result))
    (onward : ∀ result place, start < place →
      Runs pieces step (next result) place (following result) after) :
    Runs pieces step (first >>= next) start state after := by
  apply Meets.bind runs
  rintro result place - ⟨moved, machine⟩
  apply (onward result place moved).mono
  · rintro last final - ⟨further, machineOn⟩
    exact ⟨Nat.lt_trans moved further, machine.trans machineOn⟩
  · intro failure failed
    exact machine.trans failed

theorem Runs.map {first : Descent β} {made : β → α} {after : α → Progress σ τ}
    (runs : Runs pieces step first start state fun result => after (made result)) :
    Runs pieces step (first >>= fun result => pure (made result)) start state after := by
  apply Meets.bind runs
  intro result place _ machine
  exact .pure machine

theorem Runs.reads {procedure : Descent τ} (runs : Runs pieces step procedure start state .complete) :
    Reads pieces procedure (consume step state) start :=
  runs.mono (fun _ _ _ machine => machine.2) fun _ failed => failed

theorem Reads.eq_map {procedure : Descent α}
    {reader : List LocatedPiece → Except ReadError (α × List LocatedPiece)}
    {outcome : Except ReadError α} {final : Nat} (reads : Reads pieces procedure reader start)
    (called : call procedure start = some (outcome, final)) :
    reader (pieces.drop start) = outcome.map (·, pieces.drop final) := by
  rcases (reads.of_call called).2 with ⟨result, rfl, read⟩ | ⟨failure, rfl, failed⟩
  · exact read
  · exact failed

theorem lt_of_consume {result : τ} {final : Nat}
    (read : consume step state (pieces.drop start) = .ok (result, pieces.drop final)) :
    start < final := by
  have shorter := consume_shorter read
  rw [List.length_drop, List.length_drop] at shorter
  omega

end Machines

/-! ## Expressions -/

/-- The frames are not those of a form that ends with the next piece. -/
def Due (frames : List Frame) (left : List LocatedPiece) : Prop :=
  ∀ head line reversed outer closes rest,
    frames = .operands head line reversed :: outer → left ≠ ⟨.closing, closes⟩ :: rest

/-- Wherever an expression is due, the call reads it as the machine does inside the frames. -/
def ReadsDue (pieces : Pieces) (start : Nat) : Prop :=
  ∀ frames, Due frames (pieces.drop start) →
    Runs pieces ExprState.step pieces.expression start (.expression frames)
      fun e => ExprState.deliver e frames

theorem runs_formHead (start : Nat) (frames : List Frame) :
    Runs pieces ExprState.step pieces.formHead start (.formHead frames) fun (text, line) =>
      .pending (if text = "=" then .target line frames
        else .expression (.operands text line [] :: frames)) := by
  apply runs_take
  rintro ⟨piece, line⟩ rest -
  cases piece with
  | atom text =>
    simp only [ExprState.step, Except.map]
    split <;> rfl
  | opening | closing => rfl

theorem runs_target (start : Nat) (line : UInt32) (frames : List Frame) :
    Runs pieces ExprState.step pieces.target start (.target line frames) fun name =>
      .pending (.expression (.value name line :: frames)) := by
  apply runs_take
  intro located rest _
  simp only [ExprState.step]
  cases identifier located <;> rfl

theorem runs_closing (start : Nat) (name : Token) (value : Expr) (line : UInt32)
    (frames : List Frame) :
    Runs pieces ExprState.step (pieces.closing "=" 2 line) start (.close name value line frames)
      fun _ => ExprState.deliver (.assign name value) frames := by
  apply runs_take
  rintro ⟨piece, closes⟩ rest -
  cases piece <;> rfl

/-- The operands are all those in front of the parenthesis that closes the form. -/
theorem meets_operands {start : Nat}
    (expressions : ∀ place, start ≤ place → ReadsDue pieces place) (read : List Expr)
    (head : String) (line : UInt32) (frames : List Frame) :
    Meets pieces (pieces.operands read) start
      (fun all final => (∃ closes rest, pieces.drop final = ⟨.closing, closes⟩ :: rest) ∧
        consume ExprState.step (.expression (.operands head line read.reverse :: frames))
            (pieces.drop start) =
          consume ExprState.step (.expression (.operands head line all.reverse :: frames))
            (pieces.drop final))
      (fun failure =>
        consume ExprState.step (.expression (.operands head line read.reverse :: frames))
          (pieces.drop start) = .error failure) := by
  induction left : pieces.length - start using Nat.strongRecOn generalizing start read with
  | ind remaining ih =>
    rw [Pieces.operands]
    apply Meets.bind (meets_peek start)
    rintro next place - ⟨rfl, rfl⟩
    split
    next closed =>
      obtain ⟨⟨piece, closes⟩, first, rfl⟩ := Option.map_eq_some_iff.1 closed
      obtain ⟨rest, front⟩ := List.head?_eq_some_iff.1 first
      exact .pure ⟨⟨closes, rest, front⟩, rfl⟩
    next further =>
      have due : Due (.operands head line read.reverse :: frames) (pieces.drop place) := by
        rintro _ _ _ _ closes rest - front
        simp [front] at further
      apply Meets.bind (expressions place (Nat.le_refl place) _ due)
      rintro operand following within ⟨moved, machine⟩
      have fewer : pieces.length - following < remaining := by
        have inside := within.inside
        omega
      have others := ih _ fewer
        (fun later behind => expressions later (Nat.le_trans within.forward behind))
        (read ++ [operand]) rfl
      rw [List.reverse_append] at others
      apply others.mono
      · rintro all final - ⟨closes, machineOn⟩
        exact ⟨closes, machine.trans machineOn⟩
      · intro failure failed
        exact machine.trans failed

theorem runs_form {start : Nat} (expressions : ∀ place, start < place → ReadsDue pieces place)
    (frames : List Frame) :
    Runs pieces ExprState.step pieces.form start (.formHead frames)
      fun e => ExprState.deliver e frames := by
  rw [Pieces.form]
  apply (runs_formHead start frames).bind
  rintro ⟨head, line⟩ place moved
  dsimp only
  split
  next assigns =>
    subst assigns
    apply (runs_target place line frames).bind
    intro name valuePlace further
    have due : Due (.value name line :: frames) (pieces.drop valuePlace) := nofun
    apply (expressions valuePlace (Nat.lt_trans moved further) _ due).bind
    intro value closePlace _
    apply Runs.map
    exact runs_closing closePlace name value line frames
  next =>
    apply Meets.bind (meets_operands
      (fun later behind => expressions later (Nat.lt_of_lt_of_le moved behind)) [] head line frames)
    rintro all last within ⟨⟨closes, rest, front⟩, machine⟩
    have ends : Runs pieces ExprState.step (pieces.take fun _ => formExpr head line all) last
        (.expression (.operands head line all.reverse :: frames))
        fun e => ExprState.deliver e frames := by
      apply runs_take
      intro located behind frontAgain
      rw [front] at frontAgain
      cases frontAgain
      simp only [ExprState.step, List.reverse_reverse]
      cases formExpr head line all <;> rfl
    apply ends.mono
    · rintro e final - ⟨further, machineOn⟩
      exact ⟨Nat.lt_of_le_of_lt within.forward further, machine.trans machineOn⟩
    · intro failure failed
      exact machine.trans failed

theorem readsDue (start : Nat) : ReadsDue pieces start := by
  induction remains : pieces.length - start using Nat.strongRecOn generalizing start with
  | ind remaining ih =>
    intro frames due
    rw [Pieces.expression]
    apply Meets.bind ((meets_advance start).mono_error ?_)
    · rintro ⟨piece, line⟩ place within ⟨moved, left⟩
      cases piece with
      | atom text => exact .pure ⟨moved, by rw [left, consume_cons rfl]⟩
      | opening =>
        have expressions : ∀ later, place < later → ReadsDue pieces later := by
          intro later behind
          have inside := within.inside
          exact ih _ (by omega) later rfl
        rw [left, (ExprStep.opening line frames).consume_cons]
        exact (runs_form expressions frames).mono
          (fun e final _ ⟨further, machine⟩ => ⟨Nat.lt_trans moved further, machine⟩)
          fun _ failed => failed
      | closing =>
        apply Meets.throw
        rw [left]
        match frames with
        | [] => rfl
        | .value _ _ :: _ => rfl
        | .operands head headLine reversed :: outer =>
          exact absurd left (due head headLine reversed outer line _ rfl)
    · rintro failure ⟨rfl, left⟩
      rw [left]
      rfl

theorem reads_expression (start : Nat) :
    Reads pieces pieces.expression Reading.expression start :=
  (readsDue start [] nofun).reads

theorem reads_form (start : Nat) :
    Reads pieces pieces.form (consume ExprState.step (.formHead [])) start :=
  (runs_form (fun place _ => readsDue place) []).reads

/-! ## Statements and programs -/

theorem meets_formHead (start : Nat) :
    Meets pieces pieces.formHead start
      (fun (text, line) final => pieces.drop start = ⟨.atom text, line⟩ :: pieces.drop final)
      (fun failure =>
        consume StmtState.step .formHead (pieces.drop start) = .error failure) := by
  apply (meets_take _ start).mono
  · rintro ⟨text, line⟩ final - ⟨-, ⟨piece, headLine⟩, left, checked⟩
    cases piece with
    | atom name =>
      cases checked
      exact left
    | opening | closing => cases checked
  · rintro failure (⟨rfl, left⟩ | ⟨⟨piece, headLine⟩, rest, left, checked⟩)
    · rw [left]
      rfl
    · rw [left]
      apply consume_cons_error
      cases piece with
      | atom name => cases checked
      | opening | closing =>
        cases checked
        rfl

theorem meets_shape (text : String) (line : UInt32) (start : Nat) :
    Meets pieces (pieces.shape text line) start
      (fun shape final =>
        consume StmtState.step .formHead (⟨.atom text, line⟩ :: pieces.drop start) =
          consume StmtState.step (.body shape line .start) (pieces.drop final))
      (fun failure =>
        consume StmtState.step .formHead (⟨.atom text, line⟩ :: pieces.drop start) =
          .error failure) := by
  unfold Pieces.shape
  split
  next => exact .pure rfl
  next => exact .pure rfl
  next =>
    have runs : Runs pieces StmtState.step pieces.target start (.target line) fun name =>
        .pending (.body (.declaration name) line .start) := by
      apply runs_take
      intro located rest _
      simp only [StmtState.step]
      cases identifier located <;> rfl
    apply Meets.bind (runs.mono_error fun _ failed => failed)
    rintro name place - ⟨-, machine⟩
    exact .pure machine
  next noExpr noPrint noVar =>
    apply Meets.throw
    apply consume_cons_error
    rw [step_formHead, if_neg noExpr, if_neg noPrint, if_neg noVar]

theorem reads_statement (start : Nat) :
    Reads pieces pieces.statement Reading.statement start := by
  rw [Reads, Pieces.statement, Reading.statement]
  have opens : Runs pieces StmtState.step pieces.opening start .opening fun _ =>
      .pending .formHead := by
    apply runs_take
    rintro ⟨piece, line⟩ rest -
    cases piece <;> rfl
  apply Meets.bind opens
  rintro ⟨⟩ headPlace - ⟨-, machine⟩
  rw [machine]
  apply Meets.bind (meets_formHead headPlace)
  rintro ⟨text, line⟩ shapePlace - left
  rw [resume, left]
  apply Meets.bind (meets_shape text line shapePlace)
  rintro shape bodyPlace - machine
  rw [machine]
  apply Meets.bind ((reads_expression bodyPlace).mono_error
    fun _ failed => consume_body_of_error failed shape line)
  rintro body closePlace - read
  rw [consume_body read]
  have closes : Runs pieces StmtState.step (pieces.closing shape.head shape.arity line) closePlace
      (.close shape line (shape.withBody body)) fun _ => .complete (shape.withBody body) := by
    apply runs_take
    rintro ⟨piece, line⟩ rest -
    cases piece <;> rfl
  apply Meets.bind closes
  rintro ⟨⟩ final - ⟨-, machine⟩
  exact .pure machine

theorem meets_statements (start : Nat) (done : Program) :
    Meets pieces (pieces.statements done) start
      (fun all final => final = max start pieces.length ∧
        ∃ others, Reading.program (pieces.drop start) = .ok others ∧ all = done ++ others)
      (fun failure => Reading.program (pieces.drop start) = .error failure) := by
  induction remains : pieces.length - start using Nat.strongRecOn generalizing start done with
  | ind remaining ih =>
    rw [Pieces.statements]
    apply Meets.bind (meets_peek start)
    rintro next place - ⟨rfl, rfl⟩
    cases left : pieces.drop place with
    | nil =>
      have atEnd : pieces.length ≤ place := List.drop_eq_nil_iff.1 left
      exact .pure ⟨by omega, [], by simp [Reading.program], by simp⟩
    | cons located rest =>
      have nonempty : pieces.drop place ≠ [] := by simp [left]
      rw [List.head?_cons, ← left]
      apply Meets.bind ((reads_statement place).mono_error
        fun _ failed => program_of_failure nonempty failed)
      rintro s following within read
      have moved := lt_of_consume read
      have inside := within.inside
      rw [program_of_statement read]
      apply (ih _ (by omega) following (done ++ [s]) rfl).mono
      · rintro all final - ⟨rfl, others, readOthers, rfl⟩
        refine ⟨by omega, s :: others, ?_, by simp⟩
        rw [readOthers]
        rfl
      · intro failure failed
        rw [failed]
        rfl

theorem meets_program (start : Nat) :
    Meets pieces pieces.program start
      (fun all final => final = max start pieces.length ∧
        Reading.program (pieces.drop start) = .ok all)
      (fun failure => Reading.program (pieces.drop start) = .error failure) := by
  apply (meets_statements start []).mono
  · rintro all final - ⟨atEnd, others, read, rfl⟩
    exact ⟨atEnd, read⟩
  · exact fun _ failed => failed

/-! ## All procedures -/

/-- The procedures, with all their arguments. -/
inductive IsProcedure (pieces : Pieces) : {α : Type} → Descent α → Prop where
  | peek : IsProcedure pieces pieces.peek
  | advance : IsProcedure pieces pieces.advance
  | opening : IsProcedure pieces pieces.opening
  | closing (head : String) (found : Nat) (line : UInt32) :
      IsProcedure pieces (pieces.closing head found line)
  | formHead : IsProcedure pieces pieces.formHead
  | target : IsProcedure pieces pieces.target
  | expression : IsProcedure pieces pieces.expression
  | form : IsProcedure pieces pieces.form
  | operands (read : List Expr) : IsProcedure pieces (pieces.operands read)
  | shape (head : String) (line : UInt32) : IsProcedure pieces (pieces.shape head line)
  | statement : IsProcedure pieces pieces.statement
  | statements (done : Program) : IsProcedure pieces (pieces.statements done)
  | program : IsProcedure pieces pieces.program

theorem IsProcedure.exists_outcome {procedure : Descent α}
    (isProcedure : IsProcedure pieces procedure) (start : Nat) :
    ∃ outcome final,
      call procedure start = some (outcome, final) ∧ Within pieces start final := by
  cases isProcedure with
  | peek => exact ⟨_, _, call_peek start, .refl start⟩
  | advance => exact (meets_advance start).exists_outcome
  | opening | closing | formHead | target => exact (meets_take _ start).exists_outcome
  | expression => exact (reads_expression start).exists_outcome
  | form => exact (reads_form start).exists_outcome
  | operands read =>
    exact (meets_operands (fun place _ => readsDue place) read "" 0 []).exists_outcome
  | shape head line => exact (meets_shape head line start).exists_outcome
  | statement => exact (reads_statement start).exists_outcome
  | statements done => exact (meets_statements start done).exists_outcome
  | program => exact (meets_program start).exists_outcome

/-- The pieces from the one index up to the other are at least one; they are as described, and close
what they open. -/
structure TakesExactly (pieces : Pieces) (derives : List LocatedPiece → Prop)
    (start final : Nat) : Prop where
  moved : start < final
  inside : final ≤ pieces.length
  derived : derives (pieces.extract start final)
  enclosed : Enclosed (pieces.extract start final)

theorem Within.takesExactly {derives : List LocatedPiece → Prop} {taken : List LocatedPiece}
    {start final : Nat} (within : Within pieces start final) (moved : start < final)
    (split : pieces.drop start = taken ++ pieces.drop final) (derived : derives taken)
    (bracketed : IsBracketed taken) : TakesExactly pieces derives start final := by
  have inside := within.inside
  have lengths := congrArg List.length split
  rw [List.length_append, List.length_drop, List.length_drop] at lengths
  have same : pieces.extract start final = taken := by
    rw [List.extract_eq_take_drop, split]
    exact List.take_left' (by omega)
  exact ⟨moved, by omega, same ▸ derived, same ▸ bracketed.enclosed⟩

/-- Every call of every procedure returns, with the cursor neither moved back nor over the end of the
pieces.  What is read with a cursor is what the machines read from the pieces that are left.  An
expression or a statement takes one piece at least, and exactly pieces that derive it. -/
theorem procedures_return_in_bounds (pieces : Pieces) :
    (∀ {α : Type} (procedure : Descent α), IsProcedure pieces procedure → ∀ start,
      ∃ outcome final,
        call procedure start = some (outcome, final) ∧ Within pieces start final) ∧
    (∀ start outcome final, call pieces.expression start = some (outcome, final) →
      Reading.expression (pieces.drop start) = outcome.map (·, pieces.drop final) ∧
        ∀ e, outcome = .ok e → TakesExactly pieces (DerivesExpr · e) start final) ∧
    (∀ start outcome final, call pieces.form start = some (outcome, final) →
      consume ExprState.step (.formHead []) (pieces.drop start) =
        outcome.map (·, pieces.drop final)) ∧
    (∀ start outcome final, call pieces.statement start = some (outcome, final) →
      Reading.statement (pieces.drop start) = outcome.map (·, pieces.drop final) ∧
        ∀ s, outcome = .ok s → TakesExactly pieces (DerivesStmt · s) start final) ∧
    (∀ start outcome final, call pieces.program start = some (outcome, final) →
      Reading.program (pieces.drop start) = outcome ∧
        ∀ all, outcome = .ok all → final = max start pieces.length) := by
  refine ⟨fun procedure isProcedure => isProcedure.exists_outcome, ?_, ?_, ?_, ?_⟩
  · intro start outcome final called
    have reads : Reads pieces pieces.expression Reading.expression start := reads_expression start
    have read := reads.eq_map called
    refine ⟨read, ?_⟩
    rintro e rfl
    obtain ⟨taken, split, derived⟩ := derives_of_expression read
    exact (reads.of_call called).1.takesExactly (lt_of_consume read) split derived
      derived.isBracketed
  · intro start outcome final called
    exact (reads_form start).eq_map called
  · intro start outcome final called
    have reads : Reads pieces pieces.statement Reading.statement start := reads_statement start
    have read := reads.eq_map called
    refine ⟨read, ?_⟩
    rintro s rfl
    obtain ⟨taken, split, derived⟩ := derives_of_statement read
    exact (reads.of_call called).1.takesExactly (lt_of_consume read) split derived
      derived.isBracketed
  · intro start outcome final called
    rcases ((meets_program start).of_call called).2 with
      ⟨all, rfl, atEnd, read⟩ | ⟨failure, rfl, failed⟩
    · exact ⟨read, fun _ _ => atEnd⟩
    · exact ⟨failed, by simp⟩

/-- A statement in two lines, between parentheses that do not match and with an atom without
characters, which is in no text. -/
def unmatched : Pieces :=
  [⟨.closing, 1⟩, ⟨.opening, 1⟩, ⟨.atom "print", 1⟩, ⟨.opening, 2⟩, ⟨.atom "group", 2⟩,
    ⟨.atom "", 2⟩, ⟨.closing, 2⟩, ⟨.closing, 2⟩, ⟨.opening, 3⟩, ⟨.atom "-", 3⟩]

/-- The form that is not closed is read up to the end of the pieces, where its operand is missing. -/
theorem calls_between_unmatched_parentheses :
    (IsProcedure unmatched (unmatched.operands []) ∧ ∃ outcome final,
      call (unmatched.operands []) 10 = some (outcome, final) ∧ Within unmatched 10 final) ∧
    (call unmatched.expression 3 = some (.ok (.grouping (.literal (.string ""))), 7) ∧
      Reading.expression (unmatched.drop 3) =
        .ok (.grouping (.literal (.string "")), unmatched.drop 7) ∧
      TakesExactly unmatched (DerivesExpr · (.grouping (.literal (.string "")))) 3 7) ∧
    (call unmatched.form 9 = some (.error .prematureTermination, 10) ∧
      consume ExprState.step (.formHead []) (unmatched.drop 9) = .error .prematureTermination) ∧
    (call unmatched.statement 1 = some (.ok (.print (.grouping (.literal (.string "")))), 8) ∧
      Reading.statement (unmatched.drop 1) =
        .ok (.print (.grouping (.literal (.string ""))), unmatched.drop 8) ∧
      TakesExactly unmatched (DerivesStmt · (.print (.grouping (.literal (.string ""))))) 1 8) ∧
    (call unmatched.program 0 = some (.error (.unexpectedClose 1), 1) ∧
      Reading.program (unmatched.drop 0) = .error (.unexpectedClose 1)) ∧
    (call unmatched.program 10 = some (.ok [], 10) ∧ 10 = max 10 unmatched.length) := by
  obtain ⟨procedures, expressions, forms, statements, programs⟩ :=
    procedures_return_in_bounds unmatched
  have operandCalled : call unmatched.expression 5 = some (.ok (.literal (.string "")), 6) := by
    rw [Pieces.expression]
    rfl
  have noneFurther : call (unmatched.operands [.literal (.string "")]) 6 =
      some (.ok [.literal (.string "")], 6) := by
    rw [Pieces.operands]
    rfl
  have operandsCalled : call (unmatched.operands []) 5 =
      some (.ok [.literal (.string "")], 6) := by
    rw [Pieces.operands]
    change call (unmatched.expression >>= fun operand => unmatched.operands [operand]) 5 = _
    rw [call_bind, operandCalled]
    exact noneFurther
  have expressionCalled : call unmatched.expression 3 =
      some (.ok (.grouping (.literal (.string ""))), 7) := by
    rw [Pieces.expression]
    change call unmatched.form 4 = _
    rw [Pieces.form]
    change call (unmatched.operands [] >>= _) 5 = _
    rw [call_bind, operandsCalled]
    rfl
  have statementCalled : call unmatched.statement 1 =
      some (.ok (.print (.grouping (.literal (.string "")))), 8) := by
    change call (unmatched.expression >>= _) 3 = _
    rw [call_bind, expressionCalled]
    rfl
  have operandMissing : call unmatched.expression 10 = some (.error .prematureTermination, 10) := by
    rw [Pieces.expression]
    rfl
  have operandsFail : call (unmatched.operands []) 10 =
      some (.error .prematureTermination, 10) := by
    rw [Pieces.operands]
    change call (unmatched.expression >>= _) 10 = _
    rw [call_bind, operandMissing]
  have formCalled : call unmatched.form 9 = some (.error .prematureTermination, 10) := by
    rw [Pieces.form]
    change call (unmatched.operands [] >>= _) 10 = _
    rw [call_bind, operandsFail]
  have programCalled : call unmatched.program 0 = some (.error (.unexpectedClose 1), 1) := by
    rw [Pieces.program, Pieces.statements]
    rfl
  have endCalled : call unmatched.program 10 = some (.ok [], 10) := by
    rw [Pieces.program, Pieces.statements]
    rfl
  obtain ⟨expressionRead, expressionTaken⟩ := expressions _ _ _ expressionCalled
  obtain ⟨statementRead, statementTaken⟩ := statements _ _ _ statementCalled
  exact ⟨⟨.operands [], procedures _ (.operands []) 10⟩,
    ⟨expressionCalled, expressionRead, expressionTaken _ rfl⟩,
    ⟨formCalled, forms _ _ _ formCalled⟩,
    ⟨statementCalled, statementRead, statementTaken _ rfl⟩,
    ⟨programCalled, (programs _ _ _ programCalled).1⟩,
    ⟨endCalled, (programs _ _ _ endCalled).2 _ rfl⟩⟩

end LoxForms.Reading.Descent
