import LoxForms.Proofs.Reading.Positions

/-! # Texts that have been cut off

A text that is read is cut in two.  If the cut is outside all statements, the first part is read as
the statements in it; if it leaves part of the head of a statement (`CutsHead`), that head is unknown;
and otherwise the text ends too early.  An atom that was cut in two may stand for something else, but
it is an atom, and every other state that takes the whole atom takes its part, too.
-/

namespace LoxForms

open Piece Reading

/-! ## Parts of atoms -/

theorem Atom.isIdentifier_of_append {part more : String} (nonempty : part ≠ "")
    (named : isIdentifier (part ++ more) = true) : isIdentifier part = true := by
  unfold isIdentifier at *
  rw [String.toList_append] at named
  cases chars : part.toList with
  | nil => exact absurd (String.toList_eq_nil_iff.1 chars) nonempty
  | cons first others =>
    rw [chars] at named
    simp_all

namespace Reading

/-- The heads of statements. -/
def heads : List String := ["expr", "print", "var"]

theorem step_formHead_of_not_mem {text : String} (unknown : text ∉ heads) (line : UInt32) :
    StmtState.step .formHead ⟨.atom text, line⟩ = .error (.unknownForm text line) := by
  simp only [heads, List.mem_cons, List.not_mem_nil, or_false, not_or] at unknown
  rw [step_formHead, if_neg unknown.1, if_neg unknown.2.1, if_neg unknown.2.2]

theorem StmtStep.mem_heads {text : String} {line : UInt32} {progress : Progress StmtState Stmt}
    (steps : StmtStep .formHead ⟨.atom text, line⟩ progress) : text ∈ heads := by
  cases steps <;> decide

/-- No head is the beginning of another one. -/
theorem eq_of_heads_prefix : ∀ whole ∈ heads, ∀ part ∈ heads,
    part.toList <+: whole.toList → part = whole := by
  decide

variable {part more : String} {line : UInt32}

theorem ExprStep.exists_part {state : ExprState} {progress : Progress ExprState Expr}
    (steps : ExprStep state ⟨.atom (part ++ more), line⟩ progress) (nonempty : part ≠ "") :
    ∃ outcome, ExprStep state ⟨.atom part, line⟩ outcome := by
  cases state with
  | expression frames => exact ⟨_, .literal part line frames⟩
  | formHead frames =>
    by_cases assigns : part = "="
    · subst assigns
      exact ⟨_, .assign line frames⟩
    · exact ⟨_, .head line frames assigns⟩
  | target headLine frames =>
    cases steps with
    | target _ _ _ named =>
      exact ⟨_, .target line headLine frames (Atom.isIdentifier_of_append nonempty named)⟩
  | close name value headLine frames => cases steps

theorem StmtStep.exists_part {state : StmtState} {progress : Progress StmtState Stmt}
    (steps : StmtStep state ⟨.atom (part ++ more), line⟩ progress) (nonempty : part ≠ "")
    (notHead : state ≠ .formHead) :
    ∃ next, StmtStep state ⟨.atom part, line⟩ (.pending next) := by
  cases state with
  | opening => cases steps
  | formHead => exact absurd rfl notHead
  | target headLine =>
    cases steps with
    | target _ _ named =>
      exact ⟨_, .target line headLine (Atom.isIdentifier_of_append nonempty named)⟩
  | body shape headLine inner =>
    -- Whether the part completes the body does not matter, since the statement stays open.
    obtain ⟨outcome, partSteps⟩ : ∃ outcome, ExprStep inner ⟨.atom part, line⟩ outcome := by
      cases steps with
      | inside _ _ steps => exact steps.exists_part nonempty
      | bodyEnd _ _ steps => exact steps.exists_part nonempty
    cases outcome with
    | pending next => exact ⟨_, .inside shape headLine partSteps⟩
    | complete e => exact ⟨_, .bodyEnd shape headLine partSteps⟩
  | close shape headLine s => cases steps

theorem StmtStep.unknownForm_part {progress : Progress StmtState Stmt}
    (steps : StmtStep .formHead ⟨.atom (part ++ more), line⟩ progress) (proper : more ≠ "") :
    StmtState.step .formHead ⟨.atom part, line⟩ = .error (.unknownForm part line) := by
  apply step_formHead_of_not_mem
  intro known
  have same := eq_of_heads_prefix _ steps.mem_heads part known (by simp)
  exact proper (String.append_right_inj part |>.1 (by simpa using same.symm))

/-! ## Pieces that have been cut off -/

namespace Position

theorem program_of_advanceAll {pieces : List LocatedPiece} {position : Position}
    (ran : start.advanceAll pieces = .ok position) : program pieces = position.finish := by
  rw [program_eq_finish, ran]
  rfl

/-- The place of a position in the text that leads to it. -/
theorem nesting_of_split {cs : List Char} {position : Position}
    (ran : start.advanceAll (split 1 cs) = .ok position) :
    position.nesting = Nesting.start.afterChars cs := by
  rw [nesting_of_advanceAll ran, Nesting.afterPieces_split]
  rfl

theorem depth_nesting_eq_zero_iff {position : Position} :
    position.nesting.depth = 0 ↔ position.state = .opening :=
  StmtState.depth_eq_zero_iff

/-- Where an atom is expected, a part of it will do, unless it is the head of a statement. -/
theorem finish_advance_part {position next : Position} {part more : String} {line : UInt32}
    (advanced : position.advance ⟨.atom (part ++ more), line⟩ = .ok next)
    (nonempty : part ≠ "") (proper : more ≠ "") :
    position.state ≠ .opening ∧
      (position.state = .formHead → (position.advance ⟨.atom part, line⟩).bind finish =
        .error (.unknownForm part line)) ∧
      (position.state ≠ .formHead → (position.advance ⟨.atom part, line⟩).bind finish =
        .error .prematureTermination) := by
  obtain ⟨progress, steps⟩ := exists_step advanced
  refine ⟨fun outside => ?_, fun isHead => ?_, fun notHead => ?_⟩
  · rw [outside] at steps
    cases steps
  · rw [isHead] at steps
    rw [advance, isHead, steps.unknownForm_part proper]
    rfl
  · obtain ⟨state, partSteps⟩ := steps.exists_part nonempty notHead
    rw [advance, partSteps.step_eq]
    exact finish_of_inside partSteps.next_ne_opening

/-- Inside a program that is read, the reader is at a position from which it goes on to the end. -/
theorem exists_of_program_append {pieces others : List LocatedPiece} {statements : Program}
    (read : program (pieces ++ others) = .ok statements) :
    ∃ position final, start.advanceAll pieces = .ok position ∧
      position.advanceAll others = .ok final ∧ position.done <+: statements := by
  rw [program_eq_finish, bind_eq_ok_iff] at read
  obtain ⟨final, ran, finished⟩ := read
  obtain ⟨position, before, after⟩ := advanceAll_append_eq_ok_iff.1 ran
  rw [finish_eq_ok_iff.1 finished] at after
  exact ⟨position, _, before, after, done_prefix_of_advanceAll after⟩

/-- The head of a statement is due exactly behind the parenthesis that opens it. -/
theorem state_eq_formHead_iff {position : Position} {pieces : List LocatedPiece}
    (ran : start.advanceAll pieces = .ok position) :
    position.state = .formHead ↔ ∃ before opens outside, pieces = before ++ [⟨.opening, opens⟩] ∧
      start.advanceAll before = .ok outside ∧ outside.state = .opening := by
  constructor
  · intro isHead
    rcases List.eq_nil_or_concat pieces with rfl | ⟨before, located, rfl⟩
    · cases ran
      cases isHead
    · rw [List.concat_eq_append] at ran ⊢
      obtain ⟨outside, ranBefore, last⟩ := advanceAll_append_eq_ok_iff.1 ran
      rw [advanceAll_singleton] at last
      rcases advance_eq_ok last with ⟨state, steps, rfl⟩ | ⟨s, steps, rfl⟩
      · obtain rfl : state = .formHead := isHead
        obtain ⟨done, state⟩ := outside
        cases steps with
        | opening line => exact ⟨before, line, _, rfl, ranBefore, rfl⟩
      · cases isHead
  · rintro ⟨before, opens, ⟨done, state⟩, rfl, ranBefore, rfl⟩
    obtain ⟨outside, again, last⟩ := advanceAll_append_eq_ok_iff.1 ran
    rw [ranBefore] at again
    cases again
    cases last
    rfl

end Position

end Reading

/-! ## Texts that have been cut off -/

section Cut

/-- The cut between `kept` and `rest` leaves the part `head` of the head of a statement, which stands
on the given line. -/
def CutsHead (kept rest head : String) (line : UInt32) : Prop :=
  ∃ before blanks : String, kept = before ++ "(" ++ blanks ++ head ∧
    (Nesting.ofText before).depth = 0 ∧ (∀ c ∈ blanks.toList, Text.isBlank c = true) ∧
    IsAtomText head ∧ (∃ c ∈ rest.toList.head?, isAtomic c = true) ∧
    line = lineAfterAll 1 (before ++ "(" ++ blanks).toList

variable {program : Program} {kept rest : String}

theorem exists_position_of_apart (accepted : Program.read (kept ++ rest) = .ok program)
    (apart : Apart kept.toList rest.toList) :
    ∃ position : Position, Program.read kept = position.finish ∧
      position.nesting = Nesting.ofText kept ∧ position.done <+: program := by
  rw [Program.read, ofSource, String.toList_append, split_append apart] at accepted
  obtain ⟨position, _, ran, _, isPrefix⟩ := Position.exists_of_program_append accepted
  exact ⟨position, Position.program_of_advanceAll ran, Position.nesting_of_split ran, isPrefix⟩

/-- An atom that was cut in two stays an atom, and only as the head of a statement it matters. -/
theorem exists_position_of_isCut {before run more others : List Char}
    (accepted : Program.read (kept ++ rest) = .ok program) (cut : IsCut before run more others)
    (keptChars : kept.toList = before ++ run) (restChars : rest.toList = more ++ others) :
    ∃ position : Position, Position.start.advanceAll (split 1 before) = .ok position ∧
      position.nesting = Nesting.ofText kept ∧ position.state ≠ .opening ∧
      (position.state = .formHead → Program.read kept =
        .error (.unknownForm (String.ofList run) (lineAfterAll 1 before))) ∧
      (position.state ≠ .formHead → Program.read kept = .error .prematureTermination) := by
  rw [Program.read, ofSource, String.toList_append, keptChars, restChars, cut.split_both,
    String.ofList_append] at accepted
  obtain ⟨position, final, ran, later, -⟩ := Position.exists_of_program_append accepted
  obtain ⟨next, advanced, -⟩ := Position.advanceAll_cons_eq_ok_iff.1 later
  have keptPieces : Program.read kept = (position.advance
      ⟨.atom (String.ofList run), lineAfterAll 1 before⟩).bind Position.finish := by
    rw [Program.read, ofSource, keptChars, cut.split_first, program_eq_finish,
      Position.advanceAll_append, ran, ← Position.advanceAll_singleton]
    rfl
  have place : position.nesting = Nesting.ofText kept := by
    rw [Position.nesting_of_split ran, Nesting.ofText, keptChars, Nesting.afterChars_append,
      Nesting.afterChars_of_atomic cut.run_atomic]
  rw [keptPieces]
  exact ⟨position, ran, place, Position.finish_advance_part advanced
    (by simpa using cut.run_nonempty) (by simpa using cut.more_nonempty)⟩

/-- The head of a statement is due where nothing but blank characters comes after a parenthesis that
is outside all forms. -/
theorem state_eq_formHead_iff {cs : List Char} {position : Position}
    (ran : Position.start.advanceAll (split 1 cs) = .ok position) :
    position.state = .formHead ↔ ∃ before blanks, cs = before ++ '(' :: blanks ∧
      (Nesting.start.afterChars before).depth = 0 ∧ ∀ c ∈ blanks, Text.isBlank c = true := by
  rw [Position.state_eq_formHead_iff ran]
  constructor
  · rintro ⟨pieces, opens, outside, ends, reached, isOutside⟩
    obtain ⟨before, blanks, rfl, rfl, blank⟩ := exists_of_split_eq_append_opening ends
    refine ⟨before, blanks, rfl, ?_, blank⟩
    rwa [← Position.nesting_of_split reached, Position.depth_nesting_eq_zero_iff]
  · rintro ⟨before, blanks, rfl, isOutside, blank⟩
    have pieces : split 1 (before ++ '(' :: blanks) =
        split 1 before ++ [⟨.opening, lineAfterAll 1 before⟩] := by
      have stop : isAtomic '(' = false := by decide
      rw [split_append (.inr (by simp [stop])), split_delimiter stop, split_eq_nil_iff.2 blank]
      rfl
    rw [pieces] at ran
    obtain ⟨outside, reached, -⟩ := Position.advanceAll_append_eq_ok_iff.1 ran
    refine ⟨_, _, outside, pieces, reached, ?_⟩
    rwa [← Position.depth_nesting_eq_zero_iff, Position.nesting_of_split reached]

theorem CutsHead.exists_isCut {head : String} {line : UInt32}
    (cuts : CutsHead kept rest head line) :
    ∃ before blanks more others : List Char,
      IsCut (before ++ '(' :: blanks) head.toList more others ∧
      kept.toList = before ++ '(' :: blanks ++ head.toList ∧ rest.toList = more ++ others ∧
      (Nesting.start.afterChars before).depth = 0 ∧ (∀ c ∈ blanks, Text.isBlank c = true) ∧
      line = lineAfterAll 1 (before ++ '(' :: blanks) := by
  obtain ⟨before, blanks, rfl, isOutside, blank, atom, ⟨c, first, atomic⟩, rfl⟩ := cuts
  refine ⟨before.toList, blanks.toList, rest.toList.takeWhile isAtomic,
    rest.toList.dropWhile isAtomic, ?_, by simp, List.takeWhile_append_dropWhile.symm, isOutside,
    blank, by simp⟩
  have delimiters : ∀ d ∈ '(' :: blanks.toList, isAtomic d = false := by
    intro d member
    rcases List.mem_cons.1 member with rfl | inBlanks
    · decide
    · exact isAtomic_of_isBlank (blank d inBlanks)
  exact {
    run_nonempty := fun empty => atom.1 (String.toList_eq_nil_iff.1 empty)
    more_nonempty := by
      obtain ⟨others, chars⟩ := List.head?_eq_some_iff.1 first
      simp [chars, atomic]
    run_atomic := atom.2
    more_atomic := List.all_eq_true.1 List.all_takeWhile
    starts := by
      intro d last
      rw [List.getLast?_append, Option.or_of_isSome (by simp)] at last
      exact delimiters d (List.mem_of_getLast? last)
    stops := isAtomic_head?_dropWhile _ }

/-- A head stands inside one form. -/
theorem CutsHead.depth_eq {head : String} {line : UInt32} (cuts : CutsHead kept rest head line) :
    (Nesting.ofText kept).depth = 1 := by
  obtain ⟨before, blanks, more, others, cut, keptChars, _, outside, blank, _⟩ := cuts.exists_isCut
  have blanksPieces := Nesting.afterPieces_split (Nesting.start.afterChars before).enter 1 blanks
  rw [split_eq_nil_iff.2 blank] at blanksPieces
  rw [Nesting.ofText, keptChars, Nesting.afterChars_append,
    Nesting.afterChars_of_atomic cut.run_atomic, Nesting.afterChars_append]
  change ((Nesting.start.afterChars before).enter.afterChars blanks).depth = 1
  rw [← blanksPieces]
  simp [Nesting.afterPieces, Nesting.enter, outside]

theorem read_of_outside (accepted : Program.read (kept ++ rest) = .ok program)
    (outside : (Nesting.ofText kept).depth = 0) :
    Program.read kept = .ok (program.take (Nesting.ofText kept).closed) := by
  rcases apart_or_isCut kept.toList rest.toList with
    apart | ⟨before, run, more, others, keptChars, restChars, cut⟩
  · obtain ⟨position, read, nesting, isPrefix⟩ := exists_position_of_apart accepted apart
    rw [← nesting] at outside ⊢
    rw [read, Position.finish, Position.depth_nesting_eq_zero_iff.1 outside]
    exact congrArg Except.ok (List.prefix_iff_eq_take.1 isPrefix)
  · obtain ⟨position, _, nesting, inside, _⟩ :=
      exists_position_of_isCut accepted cut keptChars restChars
    rw [← nesting] at outside
    exact absurd (Position.depth_nesting_eq_zero_iff.1 outside) inside

theorem read_of_cutsHead {head : String} {line : UInt32}
    (accepted : Program.read (kept ++ rest) = .ok program) (cuts : CutsHead kept rest head line) :
    Program.read kept = .error (.unknownForm head line) := by
  obtain ⟨before, blanks, more, others, cut, keptChars, restChars, outside, blank, rfl⟩ :=
    cuts.exists_isCut
  obtain ⟨position, ran, _, _, read, _⟩ :=
    exists_position_of_isCut accepted cut keptChars restChars
  have isHead := (state_eq_formHead_iff ran).2 ⟨before, blanks, rfl, outside, blank⟩
  rw [read isHead, String.ofList_toList]

theorem read_of_inside (accepted : Program.read (kept ++ rest) = .ok program)
    (inside : (Nesting.ofText kept).depth ≠ 0)
    (noHead : ∀ head line, ¬ CutsHead kept rest head line) :
    Program.read kept = .error .prematureTermination := by
  rcases apart_or_isCut kept.toList rest.toList with
    apart | ⟨before, run, more, others, keptChars, restChars, cut⟩
  · obtain ⟨position, read, nesting, _⟩ := exists_position_of_apart accepted apart
    rw [← nesting] at inside
    rw [read, Position.finish_of_inside]
    exact fun outside => inside (Position.depth_nesting_eq_zero_iff.2 outside)
  · obtain ⟨position, ran, _, _, _, read⟩ :=
      exists_position_of_isCut accepted cut keptChars restChars
    apply read
    intro isHead
    obtain ⟨outer, blanks, rfl, outside, blank⟩ := (state_eq_formHead_iff ran).1 isHead
    apply noHead (String.ofList run) (lineAfterAll 1 (outer ++ '(' :: blanks))
    refine ⟨String.ofList outer, String.ofList blanks, ?_, ?_, ?_, ?_, ?_, ?_⟩
    · simp [← String.toList_inj, keptChars]
    · simpa [Nesting.ofText] using outside
    · simpa using blank
    · exact ⟨by simpa using cut.run_nonempty, by simpa using cut.run_atomic⟩
    · rw [restChars]
      cases chars : more with
      | nil => exact absurd chars cut.more_nonempty
      | cons c more' => exact ⟨c, rfl, cut.more_atomic c (by simp [chars])⟩
    · simp

end Cut

end LoxForms
