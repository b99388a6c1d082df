import LoxForms.Proofs.Places
import LoxForms.Proofs.Reading.Lockstep
import LoxForms.Proofs.Reading.Sound

/-! # Reading one text behind another

A text that is read ends with a closing parenthesis or blank, so no atom reaches from it into a text
that comes behind it.  The pieces of that text are further down by as many lines as the first one
has line feeds, and a reader that has finished the first text begins afresh.  So both together are
read as the first and then the second, further down (`read_append`).
-/

namespace LoxForms

open Piece Reading

variable {source text : String} {program : Program}

/-! ## The end of a text that is read -/

namespace Reading

theorem DerivesStmt.getLast? {pieces : List LocatedPiece} {s : Stmt}
    (derived : DerivesStmt pieces s) : ∃ closes, pieces.getLast? = some ⟨.closing, closes⟩ := by
  cases derived with
  | expression _ _ closes | print _ _ closes | declaration _ _ _ closes =>
    exact ⟨closes, List.getLast?_concat⟩

theorem DerivesProgram.closing_of_getLast? {pieces : List LocatedPiece} {statements : Program}
    (derived : DerivesProgram pieces statements) {last : LocatedPiece}
    (isLast : pieces.getLast? = some last) : last.piece = .closing := by
  induction derived with
  | nil => cases isLast
  | @cons first others s rest statement _ ih =>
    obtain ⟨closes, closing⟩ := statement.getLast?
    rw [List.getLast?_append, closing] at isLast
    cases ends : others.getLast? with
    | none =>
      rw [ends] at isLast
      cases isLast
      rfl
    | some lastOther =>
      rw [ends] at isLast
      exact ih (ends.trans isLast)

/-- Behind what derives a program, the rest is read as it is by itself. -/
theorem DerivesProgram.program_append {pieces : List LocatedPiece} {statements : Program}
    (derived : DerivesProgram pieces statements) (rest : List LocatedPiece) :
    Reading.program (pieces ++ rest) = (Reading.program rest).map (statements ++ ·) := by
  induction derived with
  | nil => rw [List.nil_append]; cases Reading.program rest <;> rfl
  | cons first _ ih =>
    rw [List.append_assoc, program_of_statement (first.statement_append _), ih]
    cases Reading.program rest <;> simp [Except.map]

end Reading

/-- No atom reaches from a text that is read into what comes behind it. -/
theorem apart_of_read (accepted : Program.read source = .ok program) (rest : List Char) :
    Apart source.toList rest := by
  rcases apart_or_isCut source.toList rest with apart | ⟨before, run, more, others, chars, _, cut⟩
  · exact apart
  · have derived := programRead_eq_ok_iff.1 accepted
    rw [Piece.ofSource, chars, cut.split_first] at derived
    have closing := derived.closing_of_getLast? List.getLast?_concat
    cases closing

/-! ## The text behind it -/

/-- The line that is as much further down as the text has line feeds. -/
def Piece.lineBelow (text : String) (line : UInt32) : UInt32 :=
  line + UInt32.ofNat (text.toList.count '\n')

theorem Piece.alike_below (source text : String) :
    List.Forall₂ (LocatedPiece.Alike fun line below => lineBelow source line = below)
      (ofSource text) (split (lineAfterAll 1 source.toList) text.toList) := by
  rw [lineAfterAll_eq, split_add, List.forall₂_map_right_iff]
  exact List.forall₂_same.2 fun located _ => ⟨rfl, rfl⟩

/-- The program that is read, or the error, on new lines. -/
def Program.relinedOutcome (newLine : UInt32 → UInt32) :
    Except ReadError Program → Except ReadError Program
  | .ok program => .ok (program.relined newLine)
  | .error failure => .error (failure.relined newLine)

theorem Reading.AlikeOutcome.eq_relinedOutcome {newLine : UInt32 → UInt32}
    {first second : Except ReadError Program}
    (outcomes : AlikeOutcome (fun line other => newLine line = other)
      (Program.Alike fun line other => newLine line = other) first second) :
    second = Program.relinedOutcome newLine first := by
  cases outcomes with
  | @ok others below programs =>
    have moved : others.relined newLine = below.relined id :=
      programs.relined_eq fun _ _ same => same
    rw [Program.relinedOutcome, moved, Program.relined_id]
  | @error failure below failures =>
    have moved : failure.relined newLine = below.relined id :=
      failures.relined_eq fun _ _ same => same
    rw [Program.relinedOutcome, moved, ReadError.relined_id]

theorem Program.read_append_eq (accepted : Program.read source = .ok program) (text : String) :
    Program.read (source ++ text) =
      (relinedOutcome (lineBelow source) (Program.read text)).map (program ++ ·) := by
  rw [Program.read, ofSource, String.toList_append, split_append (apart_of_read accepted _)]
  calc Reading.program (ofSource source ++ split (lineAfterAll 1 source.toList) text.toList)
    _ = (Reading.program (split (lineAfterAll 1 source.toList) text.toList)).map (program ++ ·) :=
      (programRead_eq_ok_iff.1 accepted).program_append _
    _ = (relinedOutcome (lineBelow source) (Program.read text)).map (program ++ ·) :=
      congrArg _ (program_alike (alike_below source text)).eq_relinedOutcome

theorem toNat_lineBelow (bounded : (source ++ text).toList.count '\n' ≤ UInt32.size - 2)
    {located : LocatedPiece} (member : located ∈ ofSource text) :
    (lineBelow source located.line).toNat = located.line.toNat + source.toList.count '\n' := by
  rw [String.toList_append, List.count_append, UInt32.size] at bounded
  have onLine := toNat_line_le (by rw [UInt32.size]; omega) member
  rw [lineBelow, UInt32.toNat_add, UInt32.toNat_ofNat']
  omega

/-- Behind a text that is read, another one is read as it is by itself, only that all its lines are
further down by the line feeds of the first text; and it fails as it does by itself.  These lines
are counted without an overflow if there are few enough of them. -/
theorem read_append (accepted : Program.read source = .ok program) (text : String) :
    (∀ others, Program.read text = .ok others →
      Program.read (source ++ text) = .ok (program ++ others.relined (lineBelow source))) ∧
    (∀ failure, Program.read text = .error failure →
      Program.read (source ++ text) = .error (failure.relined (lineBelow source))) ∧
    ((source ++ text).toList.count '\n' ≤ UInt32.size - 2 →
      (∀ others, Program.read text = .ok others → ∀ line ∈ others.tokenLines,
        (lineBelow source line).toNat = line.toNat + source.toList.count '\n') ∧
      ∀ failure, Program.read text = .error failure → ∀ line ∈ failure.lines,
        (lineBelow source line).toNat = line.toNat + source.toList.count '\n') := by
  refine ⟨fun others read => ?_, fun failure failed => ?_, fun bounded => ⟨?_, ?_⟩⟩
  · rw [Program.read_append_eq accepted, read]
    rfl
  · rw [Program.read_append_eq accepted, failed]
    rfl
  · intro others read line member
    obtain ⟨located, inText, rfl⟩ := exists_piece_of_mem_tokenLines read member
    exact toNat_lineBelow bounded inText
  · intro failure failed line member
    obtain ⟨located, inText, rfl⟩ := exists_piece_of_mem_lines failed member
    exact toNat_lineBelow bounded inText

/-- One line further down, a negation and an unknown head have moved from the second line to the
third. -/
theorem read_append_to_one_line :
    Program.read "(print a)\n" = .ok [.print (.literal (.string "a"))] ∧
      Program.read ("(print a)\n" ++ "\n(print (- b))") =
        .ok [.print (.literal (.string "a")),
          .print (.unary ⟨.minus, "-", none, 3⟩ (.literal (.string "b")))] ∧
      Program.read ("(print a)\n" ++ "\n(prin b)") = .error (.unknownForm "prin" 3) ∧
      (lineBelow "(print a)\n" 2).toNat = 2 + 1 := by
  have accepted : Program.read "(print a)\n" = .ok [.print (.literal (.string "a"))] := by
    have pieces : ofSource "(print a)\n" = formPieces 1 1 1 "print" [⟨.atom "a", 1⟩] ++ [] := by
      decide +kernel
    rw [programRead_eq_ok_iff, pieces]
    exact .cons (.print 1 1 1 (.literal "a" 1)) .nil
  have negation : Program.read "\n(print (- b))" =
      .ok [.print (.unary ⟨.minus, "-", none, 2⟩ (.literal (.string "b")))] := by
    have pieces : ofSource "\n(print (- b))" =
        formPieces 2 2 2 "print" (formPieces 2 2 2 "-" [⟨.atom "b", 2⟩]) ++ [] := by
      decide +kernel
    rw [programRead_eq_ok_iff, pieces]
    exact .cons (.print 2 2 2 (.unary 2 2 2 .minus (.literal "b" 2))) .nil
  have unknown : Program.read "\n(prin b)" = .error (.unknownForm "prin" 2) := by
    have pieces : ofSource "\n(prin b)" =
        [⟨.opening, 2⟩, ⟨.atom "prin", 2⟩, ⟨.atom "b", 2⟩, ⟨.closing, 2⟩] := by
      decide +kernel
    rw [Program.read, pieces]
    exact program_of_failure (by simp) rfl
  have moved : lineBelow "(print a)\n" 2 = 3 := by decide +kernel
  obtain ⟨programs, _, _⟩ := read_append accepted "\n(print (- b))"
  obtain ⟨_, failures, lines⟩ := read_append accepted "\n(prin b)"
  refine ⟨accepted, ?_, ?_, ?_⟩
  · rw [programs _ negation]
    simp [Program.relined, Stmt.relined, Stmt.map, Expr.map, Token.relined, moved]
  · rw [failures _ unknown, ReadError.relined, moved]
  · exact (lines (by decide +kernel)).2 _ unknown 2 (by simp [ReadError.lines])

end LoxForms
