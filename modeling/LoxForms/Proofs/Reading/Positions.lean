import LoxForms.Proofs.Nesting
import LoxForms.Proofs.Reading.Sound

/-! # Reading a program in one run

The reader of programs can be seen as one machine that takes all pieces in a row
(`program_eq_finish`).  A position of it is the statements that are complete and the state inside the
next one.  Complete statements stay whatever comes after them (`done_prefix_of_advanceAll`), and the
forms that are open at a position are those that the pieces before it have left open
(`nesting_of_advanceAll`).
-/

namespace LoxForms.Reading

/-! ## Open forms -/

/-- How a piece changes the number of open forms. -/
def Moves : Piece → Nat → Nat → Prop
  | .opening, before, after => after = before + 1
  | .closing, before, after => before = after + 1
  | .atom _, before, after => after = before

namespace ExprState

/-- How many forms are open around the next piece. -/
def depth : ExprState → Nat
  | .expression frames => frames.length
  | .formHead frames | .target _ frames | .close _ _ _ frames => frames.length + 1

theorem depth_eq_zero_iff {state : ExprState} : state.depth = 0 ↔ state = .start := by
  cases state <;> simp [depth, start]

def depthAfter : Progress ExprState Expr → Nat
  | .pending state => state.depth
  | .complete _ => 0

theorem depthAfter_deliver (e : Expr) (frames : List Frame) :
    depthAfter (deliver e frames) = frames.length := by
  cases frames with
  | nil => rfl
  | cons frame frames => cases frame <;> rfl

end ExprState

theorem ExprStep.moves {state : ExprState} {located : LocatedPiece}
    {progress : Progress ExprState Expr} (steps : ExprStep state located progress) :
    Moves located.piece state.depth (ExprState.depthAfter progress) := by
  cases steps with
  | literal text line frames => exact ExprState.depthAfter_deliver _ frames
  | closing line frames formed => simp [Moves, ExprState.depth, ExprState.depthAfter_deliver]
  | close name value line headLine frames =>
    simp [Moves, ExprState.depth, ExprState.depthAfter_deliver]
  | opening | assign | head | target => rfl

namespace StmtState

/-- How many forms are open around the next piece. -/
def depth : StmtState → Nat
  | .opening => 0
  | .formHead | .target _ | .close _ _ _ => 1
  | .body _ _ inner => inner.depth + 1

theorem depth_eq_zero_iff {state : StmtState} : state.depth = 0 ↔ state = .opening := by
  cases state <;> simp [depth]

def depthAfter : Progress StmtState Stmt → Nat
  | .pending state => state.depth
  | .complete _ => 0

end StmtState

/-- A body is one form deeper than the expression in it. -/
theorem Moves.succ {piece : Piece} {before after : Nat} (moves : Moves piece before after) :
    Moves piece (before + 1) (after + 1) := by
  cases piece <;> simp_all [Moves]

theorem StmtStep.moves {state : StmtState} {located : LocatedPiece}
    {progress : Progress StmtState Stmt} (steps : StmtStep state located progress) :
    Moves located.piece state.depth (StmtState.depthAfter progress) := by
  cases steps with
  | inside shape headLine steps => exact steps.moves.succ
  | bodyEnd shape headLine steps => exact steps.moves.succ
  | opening | expression | print | declaration | target | close => rfl

theorem StmtStep.next_ne_opening {state next : StmtState} {located : LocatedPiece}
    (steps : StmtStep state located (.pending next)) : next ≠ .opening := by
  cases steps <;> nofun

/-! ## Positions -/

/-- The statements that have been read, and what the next piece has to be. -/
structure Position where
  done : Program
  state : StmtState

namespace Position

def start : Position := ⟨[], .opening⟩

def advance (position : Position) (located : LocatedPiece) : Except ReadError Position :=
  match position.state.step located with
  | .error failure => .error failure
  | .ok (.pending next) => .ok ⟨position.done, next⟩
  | .ok (.complete s) => .ok ⟨position.done ++ [s], .opening⟩

def advanceAll (position : Position) (pieces : List LocatedPiece) : Except ReadError Position :=
  pieces.foldlM advance position

/-- What is read if the pieces end here. -/
def finish (position : Position) : Except ReadError Program :=
  match position.state with
  | .opening => .ok position.done
  | _ => .error .prematureTermination

theorem finish_of_inside {position : Position} (inside : position.state ≠ .opening) :
    position.finish = .error .prematureTermination := by
  unfold finish
  split
  next outside => exact absurd outside inside
  next => rfl

theorem finish_eq_ok_iff {position : Position} {program : Program} :
    position.finish = .ok program ↔ position = ⟨program, .opening⟩ := by
  obtain ⟨done, state⟩ := position
  cases state <;> simp [finish]

/-! ### Runs -/

theorem bind_eq_ok_iff {α β : Type} {first : Except ReadError α}
    {second : α → Except ReadError β} {result : β} :
    first.bind second = .ok result ↔ ∃ middle, first = .ok middle ∧ second middle = .ok result := by
  cases first <;> simp [Except.bind]

@[simp] theorem advanceAll_nil (position : Position) : position.advanceAll [] = .ok position := rfl

theorem advanceAll_cons (position : Position) (located : LocatedPiece)
    (others : List LocatedPiece) :
    position.advanceAll (located :: others) =
      (position.advance located).bind (·.advanceAll others) := rfl

theorem advanceAll_cons_eq_ok_iff {position final : Position} {located : LocatedPiece}
    {others : List LocatedPiece} :
    position.advanceAll (located :: others) = .ok final ↔
      ∃ next, position.advance located = .ok next ∧ next.advanceAll others = .ok final := by
  rw [advanceAll_cons, bind_eq_ok_iff]

theorem advanceAll_append (position : Position) (pieces others : List LocatedPiece) :
    position.advanceAll (pieces ++ others) =
      (position.advanceAll pieces).bind (·.advanceAll others) :=
  List.foldlM_append

theorem advanceAll_append_eq_ok_iff {position final : Position}
    {pieces others : List LocatedPiece} :
    position.advanceAll (pieces ++ others) = .ok final ↔
      ∃ middle, position.advanceAll pieces = .ok middle ∧ middle.advanceAll others = .ok final := by
  rw [advanceAll_append, bind_eq_ok_iff]

theorem advanceAll_singleton (position : Position) (located : LocatedPiece) :
    position.advanceAll [located] = position.advance located := by
  rw [advanceAll_cons]
  cases position.advance located <;> rfl

/-- A position goes on in the same statement, or has one more behind it. -/
theorem advance_eq_ok {position next : Position} {located : LocatedPiece}
    (advanced : position.advance located = .ok next) :
    (∃ state, StmtStep position.state located (.pending state) ∧ next = ⟨position.done, state⟩) ∨
      ∃ s, StmtStep position.state located (.complete s) ∧
        next = ⟨position.done ++ [s], .opening⟩ := by
  unfold advance at advanced
  split at advanced
  next => cases advanced
  next state stepped =>
    cases advanced
    exact .inl ⟨state, stmtStep_of_step stepped, rfl⟩
  next s stepped =>
    cases advanced
    exact .inr ⟨s, stmtStep_of_step stepped, rfl⟩

theorem exists_step {position next : Position} {located : LocatedPiece}
    (advanced : position.advance located = .ok next) :
    ∃ progress, StmtStep position.state located progress := by
  rcases advance_eq_ok advanced with ⟨state, steps, _⟩ | ⟨s, steps, _⟩
  · exact ⟨_, steps⟩
  · exact ⟨_, steps⟩

/-- The place of a position between the parentheses of the text. -/
def nesting (position : Position) : Nesting := ⟨position.state.depth, position.done.length⟩

theorem nesting_of_advance {position next : Position} {located : LocatedPiece}
    (advanced : position.advance located = .ok next) :
    next.nesting = position.nesting.afterPiece located.piece := by
  obtain ⟨piece, line⟩ := located
  rcases advance_eq_ok advanced with ⟨state, steps, rfl⟩ | ⟨s, steps, rfl⟩
  · have moves := steps.moves
    have inside : state.depth ≠ 0 := fun zero =>
      steps.next_ne_opening (StmtState.depth_eq_zero_iff.1 zero)
    cases piece <;>
      simp_all [Moves, nesting, Nesting.afterPiece, Nesting.enter, Nesting.leave,
        StmtState.depthAfter]
  · obtain ⟨done, before⟩ := position
    cases steps with
    | close => simp [nesting, Nesting.afterPiece, Nesting.leave, StmtState.depth]

theorem done_prefix_of_advance {position next : Position} {located : LocatedPiece}
    (advanced : position.advance located = .ok next) : position.done <+: next.done := by
  rcases advance_eq_ok advanced with ⟨state, _, rfl⟩ | ⟨s, _, rfl⟩
  · exact List.prefix_refl _
  · exact List.prefix_append _ _

variable {position final : Position} {pieces : List LocatedPiece}

theorem nesting_of_advanceAll (ran : position.advanceAll pieces = .ok final) :
    final.nesting = position.nesting.afterPieces pieces := by
  induction pieces generalizing position with
  | nil =>
    cases ran
    rfl
  | cons located others ih =>
    obtain ⟨next, advanced, ran⟩ := advanceAll_cons_eq_ok_iff.1 ran
    rw [ih ran, nesting_of_advance advanced]
    rfl

theorem done_prefix_of_advanceAll (ran : position.advanceAll pieces = .ok final) :
    position.done <+: final.done := by
  induction pieces generalizing position with
  | nil =>
    cases ran
    exact List.prefix_refl _
  | cons located others ih =>
    obtain ⟨next, advanced, ran⟩ := advanceAll_cons_eq_ok_iff.1 ran
    exact (done_prefix_of_advance advanced).trans (ih ran)

/-! ### The reader is the machine -/

/-- A statement that is read from here is taken piece by piece. -/
theorem finish_advanceAll_eq_consume {state : StmtState} (done : Program)
    (expected : state = .opening → pieces ≠ []) :
    ((⟨done, state⟩ : Position).advanceAll pieces).bind finish =
      (consume StmtState.step state pieces).bind fun (s, rest) =>
        ((⟨done ++ [s], .opening⟩ : Position).advanceAll rest).bind finish := by
  induction pieces generalizing state with
  | nil =>
    have inside : state ≠ .opening := fun outside => expected outside rfl
    exact finish_of_inside inside
  | cons located others ih =>
    rw [advanceAll_cons, advance]
    cases stepped : state.step located with
    | error failure =>
      rw [consume_cons_error stepped]
      rfl
    | ok progress =>
      rw [consume_cons stepped]
      cases progress with
      | pending next =>
        have inside : next ≠ .opening := (stmtStep_of_step stepped).next_ne_opening
        exact ih fun outside => absurd outside inside
      | complete s => rfl

/-- A run goes on as the reader does on the pieces that are left. -/
theorem finish_advanceAll_opening (done : Program) (pieces : List LocatedPiece) :
    ((⟨done, .opening⟩ : Position).advanceAll pieces).bind finish =
      (program pieces).map (done ++ ·) := by
  fun_induction program pieces generalizing done with
  | case1 pieces empty =>
    rw [List.isEmpty_iff.1 empty]
    simp [Except.bind, Except.map, finish]
  | case2 pieces nonempty failure failed =>
    rw [finish_advanceAll_eq_consume done fun _ empty => nonempty (List.isEmpty_iff.2 empty)]
    rw [statement] at failed
    rw [failed]
    rfl
  | case3 pieces nonempty first rest found ih =>
    rw [finish_advanceAll_eq_consume done fun _ empty => nonempty (List.isEmpty_iff.2 empty)]
    rw [statement] at found
    rw [found]
    simp only [Except.bind] at ih ⊢
    rw [ih]
    cases program rest <;> simp [Except.map]

end Position

theorem program_eq_finish (pieces : List LocatedPiece) :
    program pieces = (Position.start.advanceAll pieces).bind Position.finish := by
  rw [Position.start, Position.finish_advanceAll_opening]
  cases program pieces <;> simp [Except.map]

end LoxForms.Reading
