import LoxForms.Proofs.Reading.Sound
import LoxForms.Proofs.Written

/-! # Writing and reading back

What the reader makes conforms to what can be written, except for infinities, whose texts are
words.  A program that was read is therefore read back from its own text, with new lines and with
words in the place of infinities (`read_text`), and exactly the representable programs come back as
they were.
-/

namespace LoxForms

open Piece Reading

/-! ## Written trees are derivations -/

namespace Expr

theorem derives_pieces {e : Expr} (conforms : e.Conforms Value.IsAtom False) (line : UInt32) :
    DerivesExpr (e.pieces line) (e.map (Token.atLine line) Value.asRead) := by
  induction e with
  | assign name value ih =>
    rw [map, conforms.1.atLine_eq]
    exact .assign line line line line conforms.1.2.2 (ih conforms.2)
  | binary left operator right leftHypothesis rightHypothesis =>
    obtain ⟨leftConforms, binary, rightConforms⟩ := conforms
    rw [map, binary.atLine_eq]
    exact .binary line line line binary.1 (leftHypothesis leftConforms)
      (rightHypothesis rightConforms)
  | grouping inner ih => exact .grouping line line line (ih conforms)
  | literal value =>
    rw [pieces, split_of_isAtomText conforms]
    exact .literal value.text line
  | unary operator operand ih =>
    rw [map, conforms.1.atLine_eq]
    exact .unary line line line conforms.1.1 (ih conforms.2)
  | reference name => exact conforms.elim

end Expr

namespace Stmt

theorem derives_pieces {s : Stmt} (conforms : s.Conforms Value.IsAtom False) (line : UInt32) :
    DerivesStmt (s.pieces line) (s.map (Token.atLine line) Value.asRead) := by
  cases s with
  | expression e => exact .expression line line line (Expr.derives_pieces conforms line)
  | print e => exact .print line line line (Expr.derives_pieces conforms line)
  | declaration name e =>
    rw [map, conforms.1.atLine_eq]
    exact .declaration line line line line conforms.1.2.2 (Expr.derives_pieces conforms.2 line)

end Stmt

namespace Program

/-- Each statement on the line that is its place in the program, counted from one, and its literals
as given. -/
def numbered (value : Value → Value) (program : Program) : Program :=
  program.mapIdx fun index s => s.map (Token.atLine (UInt32.ofNat (index + 1))) value

theorem numbered_congr {references : Prop} {value other : Value → Value} {program : Program}
    (same : ∀ s ∈ program, s.Conforms (fun v => value v = other v) references) :
    numbered value program = numbered other program := by
  apply List.ext_getElem (by simp [numbered])
  intro index inRange _
  have inProgram : index < program.length := by simpa [numbered] using inRange
  simpa [numbered] using (same _ (List.getElem_mem inProgram)).map_eq _

theorem derives_pieces {program : Program}
    (conforms : ∀ s ∈ program, s.Conforms Value.IsAtom False) (first : Nat) :
    DerivesProgram (pieces (UInt32.ofNat (first + 1)) program)
      (program.mapIdx fun index s =>
        s.map (Token.atLine (UInt32.ofNat (first + index + 1))) Value.asRead) := by
  induction program generalizing first with
  | nil => exact .nil
  | cons s others ih =>
    have rest := ih (fun other member => conforms other (List.mem_cons_of_mem s member)) (first + 1)
    have next : UInt32.ofNat (first + 1) + 1 = UInt32.ofNat (first + 1 + 1) := by simp
    rw [pieces, List.mapIdx_cons, next]
    refine .cons (Stmt.derives_pieces (conforms s List.mem_cons_self) _) ?_
    simpa [Nat.add_assoc, Nat.add_comm 1] using rest

/-- What is read of a text is read of the pieces from which it was written. -/
theorem read_text_eq_program {references : Prop} {program : Program}
    (conforms : ∀ s ∈ program, s.Conforms Value.IsAtom references) :
    Program.read (text program) = Reading.program (pieces 1 program) := by
  have flat : ∀ s ∈ program, s.Conforms Value.IsFlat True := fun s member =>
    (conforms s member).mono (fun _ atom => atom.isFlat) fun _ => trivial
  rw [Program.read, Piece.ofSource, split_text flat]

/-- A program whose literals are written as atoms is read from its text, on new lines and with what
the atoms stand for. -/
theorem read_text_of_isAtom {program : Program}
    (conforms : ∀ s ∈ program, s.Conforms Value.IsAtom False) :
    Program.read (Program.text program) = .ok (numbered Value.asRead program) := by
  rw [read_text_eq_program conforms, program_eq_ok_iff]
  simpa [numbered] using derives_pieces conforms 0

/-- A program of readable literals is read from its text, on new lines and with words for
infinities. -/
theorem read_text {program : Program}
    (conforms : ∀ s ∈ program, s.Conforms Value.IsReadable False) :
    Program.read (Program.text program) = .ok (numbered Value.reread program) := by
  have atoms : ∀ s ∈ program, s.Conforms Value.IsAtom False := fun s member =>
    (conforms s member).mono (fun _ readable => readable.isAtom) id
  have same : ∀ s ∈ program, s.Conforms (fun v => v.asRead = v.reread) False := fun s member =>
    (conforms s member).mono (fun _ readable => Value.asRead_of_isReadable readable) id
  rw [read_text_of_isAtom atoms, numbered_congr same]

end Program

/-! ## What is read can be written -/

namespace Reading

/-- Every atom among the pieces could be written by itself. -/
def AllAtoms (pieces : List LocatedPiece) : Prop :=
  ∀ text line, ⟨.atom text, line⟩ ∈ pieces → IsAtomText text

theorem AllAtoms.mono {pieces others : List LocatedPiece} (atoms : AllAtoms pieces)
    (subset : others ⊆ pieces) : AllAtoms others :=
  fun text line member => atoms text line (subset member)

theorem AllAtoms.operands {opens line closes : UInt32} {head : String}
    {operands : List LocatedPiece} (atoms : AllAtoms (formPieces opens line closes head operands)) :
    AllAtoms operands :=
  atoms.mono fun _ member =>
    List.mem_cons_of_mem _ (List.mem_cons_of_mem _ (List.mem_append_left _ member))

theorem allAtoms_ofSource (source : String) : AllAtoms (Piece.ofSource source) :=
  fun _ _ member => isAtomText_of_mem_split member

theorem DerivesExpr.conforms {pieces : List LocatedPiece} {e : Expr}
    (derived : DerivesExpr pieces e) (atoms : AllAtoms pieces) :
    e.Conforms Value.IsReadable False := by
  induction derived with
  | literal text line => exact ⟨text, atoms text line List.mem_cons_self, rfl⟩
  | grouping opens line closes _ ih => exact ih atoms.operands
  | assign opens line nameLine closes named _ ih =>
    exact ⟨⟨rfl, rfl, named⟩, ih (atoms.operands.mono (List.subset_cons_self _ _))⟩
  | unary opens line closes operator _ ih => exact ⟨⟨operator, rfl⟩, ih atoms.operands⟩
  | binary opens line closes operator _ _ leftHypothesis rightHypothesis =>
    exact ⟨leftHypothesis (atoms.operands.mono (List.subset_append_left _ _)), ⟨operator, rfl⟩,
      rightHypothesis (atoms.operands.mono (List.subset_append_right _ _))⟩

theorem DerivesStmt.conforms {pieces : List LocatedPiece} {s : Stmt}
    (derived : DerivesStmt pieces s) (atoms : AllAtoms pieces) :
    s.Conforms Value.IsReadable False := by
  cases derived with
  | expression opens line closes body => exact body.conforms atoms.operands
  | print opens line closes body => exact body.conforms atoms.operands
  | declaration opens line nameLine closes named body =>
    exact ⟨⟨rfl, rfl, named⟩, body.conforms (atoms.operands.mono (List.subset_cons_self _ _))⟩

theorem DerivesProgram.conforms {pieces : List LocatedPiece} {program : Program}
    (derived : DerivesProgram pieces program) (atoms : AllAtoms pieces) :
    ∀ s ∈ program, s.Conforms Value.IsReadable False := by
  induction derived with
  | nil => simp
  | cons first _ ih =>
    intro s member
    rcases List.mem_cons.1 member with rfl | later
    · exact first.conforms (atoms.mono (List.subset_append_left _ _))
    · exact ih (atoms.mono (List.subset_append_right _ _)) s later

end Reading

theorem Program.conforms_of_read {source : String} {program : Program}
    (accepted : Program.read source = .ok program) :
    ∀ s ∈ program, s.Conforms Value.IsReadable False :=
  (programRead_eq_ok_iff.1 accepted).conforms (allAtoms_ofSource source)

/-! ## Reading back what was read -/

namespace Program

theorem text_congr {first second : Program}
    (sameLines : first.map Stmt.text = second.map Stmt.text) : text first = text second := by
  have byLines : ∀ statements : Program, text statements =
      (statements.map Stmt.text).foldr (fun line others => line ++ "\n" ++ others) "" := by
    intro statements
    rw [text, List.foldr_map]
  rw [byLines, byLines, sameLines]

/-- The numbers of the lines are not written. -/
theorem text_numbered_eq_text_map {value other : Value → Value}
    (sameText : ∀ v, (value v).text = (other v).text) (program : Program) :
    text (numbered value program) = text (program.map (Stmt.map id other)) := by
  apply text_congr
  apply List.ext_getElem (by simp [numbered])
  intro index _ _
  simp only [numbered, List.getElem_map, List.getElem_mapIdx]
  refine Stmt.text_map (fun token => ?_) sameText _
  rfl

theorem text_numbered {value : Value → Value} (sameText : ∀ v, (value v).text = v.text)
    (program : Program) : text (numbered value program) = text program := by
  have unchanged : program.map (Stmt.map id id) = program := by simp [funext Stmt.map_id]
  have sameAsId : ∀ v, (value v).text = (id v).text := sameText
  rw [text_numbered_eq_text_map sameAsId, unchanged]

end Program

/-- A program that was read is read again from what is printed of it.  Then every token stands on the
line that is the place of its statement, an infinity has become the word that is its text, and the
same bytes are printed once more. -/
theorem read_printed_of_read {source : String} {program : Program}
    (accepted : Program.read source = .ok program) :
    ∃ text : String,
      Printer.print {} program =
        (.ok (), { sink := { stored := text.toUTF8.data, flushes := 1 } }) ∧
      Program.read text = .ok (Program.numbered Value.reread program) ∧
      Printer.print {} (Program.numbered Value.reread program) =
        (.ok (), { sink := { stored := text.toUTF8.data, flushes := 1 } }) := by
  refine ⟨Program.text program, Printer.print_plain program,
    Program.read_text (Program.conforms_of_read accepted), ?_⟩
  rw [Printer.print_plain, Program.text_numbered Value.text_reread]

/-- The negation of a constant, printed. -/
def Stmt.printNegation (line : UInt32) (value : Value) : Stmt :=
  .print (.unary ⟨.minus, "-", none, line⟩ (.literal value))

/-- A numeral beyond all finite numbers, on the third line, comes back as a word on the first. -/
theorem read_printed_infinity :
    Program.read "\n\n(print (- 1e999))" =
        .ok [.printNegation 3 (.number (Binary64.ofRank false Binary64.infinityRank))] ∧
      Printer.print {} [.printNegation 3 (.number (Binary64.ofRank false Binary64.infinityRank))] =
        (.ok (), { sink := { stored := "(print (- inf))\n".toUTF8.data, flushes := 1 } }) ∧
      Program.read "(print (- inf))\n" = .ok [.printNegation 1 (.string "inf")] := by
  have accepted : Program.read "\n\n(print (- 1e999))" =
      .ok [.printNegation 3 (.number (Binary64.ofRank false Binary64.infinityRank))] := by
    have pieces : Piece.ofSource "\n\n(print (- 1e999))" =
        formPieces 3 3 3 "print" (formPieces 3 3 3 "-" [⟨.atom "1e999", 3⟩]) ++ [] := by
      decide +kernel
    rw [programRead_eq_ok_iff, pieces]
    exact .cons (.print 3 3 3 (.unary 3 3 3 .minus (.literal "1e999" 3))) .nil
  have written : Program.text
      [.printNegation 3 (.number (Binary64.ofRank false Binary64.infinityRank))] =
        "(print (- inf))\n" := by
    decide +kernel
  obtain ⟨text, printed, again, _⟩ := read_printed_of_read accepted
  have sameText : text = "(print (- inf))\n" :=
    (Printer.print_plain_eq_iff.1 printed).symm.trans written
  rw [sameText] at printed again
  exact ⟨accepted, printed, again⟩

/-! ## Programs that come back as they were -/

namespace Value

/-- A finite number, a keyword, or a string that is an atom and stands for itself. -/
def IsRepresentable : Value → Prop
  | .nil => True
  | .boolean _ => True
  | .number x => Binary64.isFinite x = true
  | .string text => IsAtomText text ∧ Atom.IsWord text

theorem isReadable_of_isRepresentable {value : Value} (representable : value.IsRepresentable) :
    value.IsReadable := by
  cases value with
  | nil => exact ⟨"nil", by decide, rfl⟩
  | boolean truth =>
    cases truth with
    | true => exact ⟨"true", by decide, rfl⟩
    | false => exact ⟨"false", by decide, rfl⟩
  | number x =>
    exact ⟨Number.text Number.plain x, isAtomText_number x,
      Atom.value_of_read? (Number.read?_text representable)⟩
  | string text => exact ⟨text, representable.1, Atom.value_of_isWord representable.2⟩

theorem isRepresentable_iff {value : Value} :
    value.IsRepresentable ↔ value.IsReadable ∧ value.reread = value := by
  constructor
  · intro representable
    refine ⟨isReadable_of_isRepresentable representable, ?_⟩
    cases value with
    | number x =>
      have notInf : x.isInf = false := Binary64.isInf_of_finite representable
      simp [reread, notInf]
    | nil | boolean _ | string _ => rfl
  · rintro ⟨readable, same⟩
    cases value with
    | nil => trivial
    | boolean truth => trivial
    | number x =>
      have number := readable.isNaN
      cases finite : Binary64.isFinite x with
      | true => exact finite
      | false =>
        simp [reread, Binary64.isInf_of_not_finite finite number] at same
    | string word =>
      obtain ⟨text, atom, stands⟩ := readable
      obtain ⟨rfl, isWord⟩ := Atom.isWord_of_value_eq stands
      exact ⟨atom, isWord⟩

end Value

namespace Program

/-- There are no references, all tokens are as the reader makes them, and every literal is a value
that is read back from its text. -/
def IsRepresentable (program : Program) : Prop :=
  ∀ s ∈ program, s.Conforms Value.IsRepresentable False

theorem numbered_eq_of_isRepresentable {program : Program}
    (representable : IsRepresentable program) :
    numbered Value.reread program = numbered id program :=
  numbered_congr fun s member =>
    (representable s member).mono (fun _ value => (Value.isRepresentable_iff.1 value).2) id

theorem read_text_of_isRepresentable {program : Program}
    (representable : program.IsRepresentable) :
    Program.read program.text = .ok (numbered id program) := by
  have readable : ∀ s ∈ program, s.Conforms Value.IsReadable False := fun s member =>
    (representable s member).mono (fun _ => Value.isReadable_of_isRepresentable) id
  rw [read_text readable, numbered_eq_of_isRepresentable representable]

theorem isRepresentable_of_read {program : Program}
    (back : Program.read (Program.text program) = .ok (numbered id program)) :
    IsRepresentable program := by
  have readable : ∀ s ∈ program, s.Conforms Value.IsReadable False := by
    intro s member
    obtain ⟨index, inRange, rfl⟩ := List.getElem_of_mem member
    have result := conforms_of_read back
      (program[index].map (Token.atLine (UInt32.ofNat (index + 1))) id)
      (List.mem_mapIdx.2 ⟨index, inRange, rfl⟩)
    exact (Stmt.conforms_map_atLine _ _).1 result
  have same : numbered Value.reread program = numbered id program := by
    simpa [read_text readable] using back
  intro s member
  obtain ⟨index, inRange, rfl⟩ := List.getElem_of_mem member
  have sameStmt := congrArg (fun statements : Program => statements[index]?) same
  simp only [numbered, List.getElem?_mapIdx, List.getElem?_eq_getElem inRange,
    Option.map_some, Option.some.injEq] at sameStmt
  exact ((readable _ member).of_map_eq sameStmt).mono
    (fun _ value => Value.isRepresentable_iff.2 value) id

end Program

/-- What is printed of a program is read as that program, on new lines, exactly if the program is
representable. -/
theorem read_printed_eq_iff_isRepresentable (program : Program) :
    Printer.print {} program =
        (.ok (), { sink := { stored := (Program.text program).toUTF8.data, flushes := 1 } }) ∧
      (Program.read (Program.text program) = .ok (Program.numbered id program) ↔
        Program.IsRepresentable program) := by
  exact ⟨Printer.print_plain program, Program.isRepresentable_of_read,
    Program.read_text_of_isRepresentable⟩

end LoxForms
