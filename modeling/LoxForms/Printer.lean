import LoxForms.Log
import LoxForms.Render
import LoxForms.Sink

/-! # Printing programs

A printer renders one line per statement into its sink.  A statement that cannot be rendered is
reported and skipped; a failing sink stops the printing at once.  A run that no write has stopped
ends with a flush.
-/

namespace LoxForms

structure Printer where
  folding : Bool := false
  sink : Sink := {}
  log : Log := {}

namespace Printer

/-- Prints the statements in order. -/
def print (printer : Printer) : Program → Except SinkError Unit × Printer
  | [] =>
    let (result, after) := printer.sink.flush
    (result, { printer with sink := after })
  | statement :: others =>
    match statement.render printer.folding with
    | .error failure => { printer with log := printer.log.report failure }.print others
    | .ok line =>
      match printer.sink.writeLine line with
      | (.error failure, after) => (.error failure, { printer with sink := after })
      | (.ok (), after) => { printer with sink := after }.print others

end Printer

/-! ## Printing to standard output -/

inductive OutputError where
  | stdoutFailed (cause : SinkError)
deriving DecidableEq, Repr

def OutputError.message : OutputError → String
  | .stdoutFailed _ => "failed to write to stdout"

/-- Prints a program without folding to the given standard output.  What is reported on the way
is the text of the log. -/
def Program.print (program : Program) (stdout : Sink) : Except OutputError Unit × Sink × Log :=
  let (result, printer) := Printer.print { sink := stdout } program
  (result.mapError .stdoutFailed, printer.sink, printer.log)

end LoxForms
