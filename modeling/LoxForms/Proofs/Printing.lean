import Mathlib.Data.List.Forall2
import LoxForms.Proofs.Accounting
import LoxForms.Proofs.Rendering

/-! # Sinks that take everything

A sink without a limit stores everything that can be rendered, and the run ends with its flush
(`print_unlimited`).  A printer that does not fold writes the text of the program to it, one line for
each statement, and reports nothing.  The lines are those that are rendered without a printer, and the
standard output gets the same ones.
-/

namespace LoxForms

/-! ## The text of a program -/

namespace Program

/-- The lines of a program, with a line feed after each. -/
def text (program : Program) : String :=
  program.foldr (fun statement others => statement.text ++ "\n" ++ others) ""

theorem text_eq_join (program : Program) :
    program.text = String.join (program.lines.map fun line => line ++ "\n") := by
  rw [lines]
  induction program with
  | nil => simp [text]
  | cons s others ih =>
    rw [List.map_cons, List.map_cons, String.join_cons, ← ih]
    rfl

theorem renderedLines_plain (program : Program) : renderedLines false program = program.lines := by
  simp [renderedLines, Stmt.render_plain, Except.toOption, lines]

theorem renderedText_plain (program : Program) : renderedText false program = program.text := by
  rw [renderedText, renderedLines_plain, lines, List.foldr_map, text]

theorem failures_plain (program : Program) : failures false program = [] := by
  simp [failures, Stmt.render_plain, FoldError.of?]

/-- The lines are those of the statements, in order. -/
theorem forall₂_render_lines (program : Program) :
    List.Forall₂ (fun s line => s.render false = .ok line) program program.lines := by
  rw [lines, List.forall₂_map_right_iff]
  exact List.forall₂_same.2 fun s _ => s.render_plain

end Program

/-! ## Printers -/

namespace Printer

/-- What a printer leaves behind whose sink has no limit. -/
theorem print_unlimited (folding : Bool) (sink : Sink) (log : Log) (program : Program) :
    Printer.print { folding := folding, sink := { sink with limit := none }, log := log } program =
      (if sink.flushFails then .error .flushFailed else .ok (),
        { folding := folding
          sink := { sink with
            stored := sink.stored ++ program.bytes folding
            limit := none
            flushes := sink.flushes + 1 }
          log := log.reporting (program.failures folding) }) := by
  have fits : Sink.Fits { sink with limit := none } (program.bytes folding).size := nofun
  rw [print_of_fits fits]
  rfl

/-- What a fresh printer leaves behind. -/
theorem print_fresh (folding : Bool) (program : Program) :
    Printer.print { folding := folding } program =
      (.ok (), { folding := folding, sink := { stored := program.bytes folding, flushes := 1 },
                 log := Log.reporting {} (program.failures folding) }) := by
  have printed := print_unlimited folding {} {} program
  simpa using printed

/-- The sink gets the text of the program, and the log stays as it is. -/
theorem print_plain_unlimited (sink : Sink) (log : Log) (program : Program) :
    Printer.print { sink := { sink with limit := none }, log := log } program =
      (if sink.flushFails then .error .flushFailed else .ok (),
        { sink := { sink with
            stored := sink.stored ++ program.text.toUTF8.data
            limit := none
            flushes := sink.flushes + 1 }
          log := log }) := by
  rw [print_unlimited, Program.bytes, Program.renderedText_plain, Program.failures_plain,
    Log.reporting_nil]

theorem print_plain (program : Program) :
    Printer.print {} program =
      (.ok (), { sink := { stored := program.text.toUTF8.data, flushes := 1 } }) := by
  have printed := print_plain_unlimited {} {} program
  simpa using printed

/-- The bytes that are stored settle the text. -/
theorem print_plain_eq_iff {program : Program} {text : String} :
    Printer.print {} program =
        (.ok (), { sink := { stored := text.toUTF8.data, flushes := 1 } }) ↔
      program.text = text := by
  rw [print_plain]
  refine ⟨fun same => ?_, fun same => by rw [same]⟩
  simp only [Prod.mk.injEq, Printer.mk.injEq, Sink.mk.injEq, and_true, true_and] at same
  exact String.toByteArray_inj.1 (ByteArray.ext same)

end Printer

/-- Without folding nothing fails, and all ways to get the lines of a program agree.  Rendering yields
one line for each statement, in order; a printer adds these lines, with a line feed after each, to
what an unlimited sink holds, whatever the state of both, and its log stays as it is; and the
standard output, if it works, gets the same bytes, while nothing is reported. -/
theorem render_print_agree (program : Program) :
    ∃ lines : List String,
      List.Forall₂ (fun s line => s.render false = .ok line) program lines ∧
      program.render = .ok lines ∧
      (∀ (sink : Sink) (log : Log),
        Printer.print { sink := { sink with limit := none }, log := log } program =
          (if sink.flushFails then .error .flushFailed else .ok (),
            { sink := { sink with
                stored := sink.stored ++
                  (String.join (lines.map fun line => line ++ "\n")).toUTF8.data
                limit := none
                flushes := sink.flushes + 1 }
              log := log })) ∧
      ∀ stdout : Sink,
        ∃ log : Log, log.text = "" ∧
          Program.print program { stdout with limit := none, flushFails := false } =
            (.ok (),
              { stdout with
                stored := stdout.stored ++
                  (String.join (lines.map fun line => line ++ "\n")).toUTF8.data
                limit := none
                flushFails := false
                flushes := stdout.flushes + 1 },
              log) := by
  refine ⟨program.lines, program.forall₂_render_lines, program.render_eq_lines, ?_, ?_⟩
  · intro sink log
    rw [← Program.text_eq_join, Printer.print_plain_unlimited]
  · intro stdout
    have printed := Printer.print_plain_unlimited { stdout with flushFails := false } {} program
    refine ⟨{}, by simp [Log.text, Log.messages], ?_⟩
    rw [← Program.text_eq_join, Program.print, printed]
    rfl

end LoxForms
