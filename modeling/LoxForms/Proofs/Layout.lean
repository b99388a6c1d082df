import LoxForms.Proofs.Reading.Lockstep
import LoxForms.Proofs.Reading.Sound

/-! # Layout

Two texts may have the same pieces on different lines.  They are read as the same tree, or fail
with the same error, up to lines; and each line of the one result and the line in its place in the
other are those of the pieces at one place of the two texts (`read_eq_up_to_lines`).
-/

namespace LoxForms

open Piece Reading

/-- The lines of the pieces at one place of the two texts. -/
def SamePlace (first second : String) (line other : UInt32) : Prop :=
  ∃ (index : Nat) (located another : LocatedPiece),
    (ofSource first)[index]? = some located ∧ (ofSource second)[index]? = some another ∧
      located.line = line ∧ another.line = other

variable {first second : String}

/-- Texts with the same pieces are read in lockstep. -/
theorem alike_samePlace
    (samePieces : (ofSource first).map LocatedPiece.piece =
      (ofSource second).map LocatedPiece.piece) :
    List.Forall₂ (LocatedPiece.Alike (SamePlace first second)) (ofSource first)
      (ofSource second) := by
  have sameLength : (ofSource first).length = (ofSource second).length := by
    simpa using congrArg List.length samePieces
  refine List.forall₂_iff_get.2 ⟨sameLength, fun index inFirst inSecond => ⟨?_, ?_⟩⟩
  · have samePiece := congrArg (·[index]?) samePieces
    simpa [inFirst, inSecond] using samePiece
  · exact ⟨index, _, _, List.getElem?_eq_getElem inFirst, List.getElem?_eq_getElem inSecond,
      rfl, rfl⟩

/-- Layout does not matter.  Texts with the same pieces are both read, as programs that are equal
without their lines, or they fail with errors that are; and so it is with expressions.  The lines
of the two results are those of the same pieces. -/
theorem read_eq_up_to_lines
    (samePieces : (ofSource first).map LocatedPiece.piece =
      (ofSource second).map LocatedPiece.piece) :
    ((∃ program other, Program.read first = .ok program ∧ Program.read second = .ok other ∧
        program.relined (fun _ => 0) = other.relined (fun _ => 0) ∧
        List.Forall₂ (SamePlace first second) program.tokenLines other.tokenLines) ∨
      ∃ failure other, Program.read first = .error failure ∧ Program.read second = .error other ∧
        failure.relined (fun _ => 0) = other.relined (fun _ => 0) ∧
        List.Forall₂ (SamePlace first second) failure.lines other.lines) ∧
    ((∃ e other, Expr.read first = .ok e ∧ Expr.read second = .ok other ∧
        e.relined (fun _ => 0) = other.relined (fun _ => 0) ∧
        List.Forall₂ (SamePlace first second) e.tokenLines other.tokenLines) ∨
      ∃ failure other, Expr.read first = .error failure ∧ Expr.read second = .error other ∧
        failure.relined (fun _ => 0) = other.relined (fun _ => 0) ∧
        List.Forall₂ (SamePlace first second) failure.lines other.lines) := by
  have programs := programRead_alike (alike_samePlace samePieces)
  have expressions := exprRead_alike (alike_samePlace samePieces)
  constructor
  · generalize Program.read first = outcome, Program.read second = another at programs
    cases programs with
    | ok alike =>
      exact .inl ⟨_, _, rfl, rfl, alike.relined_eq fun _ _ _ => rfl, alike.tokenLines⟩
    | error alike =>
      exact .inr ⟨_, _, rfl, rfl, alike.relined_eq fun _ _ _ => rfl, alike.lines⟩
  · generalize Expr.read first = outcome, Expr.read second = another at expressions
    cases expressions with
    | ok alike =>
      exact .inl ⟨_, _, rfl, rfl, alike.relined_eq fun _ _ _ => rfl, alike.tokenLines⟩
    | error alike =>
      exact .inr ⟨_, _, rfl, rfl, alike.relined_eq fun _ _ _ => rfl, alike.lines⟩

/-- The second layout has a line separator, which counts no line, and two line feeds.  The minus and
the head stand on other lines there, as their pieces do. -/
theorem read_two_layouts :
    Program.read "(print (- x))" =
        .ok [.print (.unary ⟨.minus, "-", none, 1⟩ (.literal (.string "x")))] ∧
      Program.read "(\u2028\nprint(\n- x) )" =
        .ok [.print (.unary ⟨.minus, "-", none, 3⟩ (.literal (.string "x")))] ∧
      SamePlace "(print (- x))" "(\u2028\nprint(\n- x) )" 1 3 ∧
      Expr.read "(print (- x))" = .error (.unknownForm "print" 1) ∧
      Expr.read "(\u2028\nprint(\n- x) )" = .error (.unknownForm "print" 2) ∧
      SamePlace "(print (- x))" "(\u2028\nprint(\n- x) )" 1 2 := by
  have firstPieces : ofSource "(print (- x))" =
      formPieces 1 1 1 "print" (formPieces 1 1 1 "-" [⟨.atom "x", 1⟩]) ++ [] := by
    decide +kernel
  have secondPieces : ofSource "(\u2028\nprint(\n- x) )" =
      formPieces 1 2 3 "print" (formPieces 2 3 3 "-" [⟨.atom "x", 3⟩]) ++ [] := by
    decide +kernel
  have firstRead : Program.read "(print (- x))" =
      .ok [.print (.unary ⟨.minus, "-", none, 1⟩ (.literal (.string "x")))] := by
    rw [programRead_eq_ok_iff, firstPieces]
    exact .cons (.print 1 1 1 (.unary 1 1 1 .minus (.literal "x" 1))) .nil
  have secondRead : Program.read "(\u2028\nprint(\n- x) )" =
      .ok [.print (.unary ⟨.minus, "-", none, 3⟩ (.literal (.string "x")))] := by
    rw [programRead_eq_ok_iff, secondPieces]
    exact .cons (.print 1 2 3 (.unary 2 3 3 .minus (.literal "x" 3))) .nil
  have firstFails : Expr.read "(print (- x))" = .error (.unknownForm "print" 1) := by
    rw [Expr.read, firstPieces]
    rfl
  have secondFails : Expr.read "(\u2028\nprint(\n- x) )" = .error (.unknownForm "print" 2) := by
    rw [Expr.read, secondPieces]
    rfl
  have samePieces : (ofSource "(print (- x))").map LocatedPiece.piece =
      (ofSource "(\u2028\nprint(\n- x) )").map LocatedPiece.piece := by
    rw [firstPieces, secondPieces]
    rfl
  obtain ⟨programs, expressions⟩ := read_eq_up_to_lines samePieces
  refine ⟨firstRead, secondRead, ?_, firstFails, secondFails, ?_⟩
  · rw [firstRead, secondRead] at programs
    rcases programs with ⟨_, _, isFirst, isSecond, _, lines⟩ | ⟨_, _, failed, _⟩
    · cases isFirst
      cases isSecond
      cases lines with
      | cons minuses _ => exact minuses
    · cases failed
  · rw [firstFails, secondFails] at expressions
    rcases expressions with ⟨_, _, read, _⟩ | ⟨_, _, isFirst, isSecond, _, lines⟩
    · cases read
    · cases isFirst
      cases isSecond
      cases lines with
      | cons heads _ => exact heads

end LoxForms
