import LoxForms.Fold

/-! # Logs of reported errors

A log keeps the errors themselves.  What is shown of them, or counted, is computed from these.
-/

namespace LoxForms

/-- The errors reported so far, in order. -/
structure Log where
  failures : Array FoldError := #[]

namespace Log

def report (log : Log) (failure : FoldError) : Log := ⟨log.failures.push failure⟩

def messages (log : Log) : Array String := log.failures.map FoldError.message

def reported (log : Log) : Nat := log.failures.size

def hadError (log : Log) : Bool := decide (0 < log.reported)

/-- Every message on a line of its own. -/
def text (log : Log) : String :=
  log.messages.foldl (fun text message => text ++ message ++ "\n") ""

end Log

end LoxForms
