import LoxForms.Proofs.Accounting

/-! # Printing in slices

A printer that has printed one program and then prints another one does what it would have done with
both at once, only that it has been flushed in between (`print_in_slices`).  For this, a flush must not
matter to what is printed later (`print_flushed`), and a line that did not fit must keep everything
behind it from being printed (`print_append_of_not_fits`).
-/

namespace LoxForms

/-- The sink after one more flush. -/
def Sink.flushed (sink : Sink) : Sink := { sink with flushes := sink.flushes + 1 }

/-- The failure is that of a write. -/
def SinkError.IsOfWrite : SinkError → Prop
  | .full | .incomplete => True
  | .flushFailed => False

theorem Sink.isOfWrite_refusal (sink : Sink) : sink.refusal.IsOfWrite := by
  unfold refusal
  split <;> trivial

namespace Printer

def flushed (printer : Printer) : Printer := { printer with sink := printer.sink.flushed }

theorem print_nil (printer : Printer) :
    printer.print [] =
      (if printer.sink.flushFails then .error .flushFailed else .ok (), printer.flushed) := rfl

/-- An earlier flush is counted, and that is all. -/
theorem print_flushed (printer : Printer) (program : Program) :
    printer.flushed.print program =
      ((printer.print program).1, (printer.print program).2.flushed) := by
  induction program generalizing printer with
  | nil => rfl
  | cons statement others ih =>
    by_cases fits : printer.sink.Fits (Program.bytes printer.folding [statement]).size
    · have flushedFits : printer.flushed.sink.Fits
          (Program.bytes printer.flushed.folding [statement]).size := fits
      rw [print_cons_of_fits fits, print_cons_of_fits flushedFits]
      exact ih (printer.leaving _ _)
    · have flushedCut : ¬ printer.flushed.sink.Fits
          (Program.bytes printer.flushed.folding [statement]).size := fits
      rw [(print_cons_of_not_fits fits others).2, (print_cons_of_not_fits flushedCut others).2]
      rfl

/-- What comes behind a line that does not fit plays no part. -/
theorem print_append_of_not_fits {printer : Printer} {program : Program}
    (cut : ¬ printer.sink.Fits (program.bytes printer.folding).size) (others : Program) :
    printer.print (program ++ others) = printer.print program := by
  induction program generalizing printer with
  | nil => exact absurd (by simp [Sink.Fits]) cut
  | cons statement program ih =>
    rw [List.cons_append]
    by_cases first : printer.sink.Fits (Program.bytes printer.folding [statement]).size
    · rw [Program.bytes_cons, Array.size_append, ← Sink.fits_appending_iff first] at cut
      rw [print_cons_of_fits first, print_cons_of_fits first]
      exact @ih (printer.leaving _ _) cut
    · rw [(print_cons_of_not_fits first _).2, (print_cons_of_not_fits first _).2]

/-- A run ends with the failure of a write exactly if not everything fits. -/
theorem isOfWrite_iff {printer : Printer} {program : Program} :
    (∃ failure, (printer.print program).1 = .error failure ∧ failure.IsOfWrite) ↔
      ¬ printer.sink.Fits (program.bytes printer.folding).size := by
  constructor
  · rintro ⟨failure, failed, ofWrite⟩ fits
    rw [print_of_fits fits, print_nil] at failed
    split at failed
    · cases failed
      exact ofWrite
    · cases failed
  · intro cut
    obtain ⟨_, _, _, _, _, _, _, printed⟩ := print_of_not_fits cut
    exact ⟨_, congrArg Prod.fst printed, printer.sink.isOfWrite_refusal⟩

end Printer

/-- Two programs can be printed one after the other or both at once.  If no write fails in the first of
the two runs, whatever its flush does, the second one has the result of the single run and leaves the
same printer behind, but for one flush more.  If a write fails in the first program, the single run
fails in the same way and leaves the same printer behind as the first run. -/
theorem print_in_slices (printer : Printer) (first second : Program) :
    ((∀ failure, (printer.print first).1 = .error failure → ¬ failure.IsOfWrite) →
      (printer.print first).2.print second =
        ((printer.print (first ++ second)).1, (printer.print (first ++ second)).2.flushed)) ∧
    (∀ failure, (printer.print first).1 = .error failure → failure.IsOfWrite →
      printer.print (first ++ second) = printer.print first) := by
  constructor
  · intro written
    have fits : printer.sink.Fits (first.bytes printer.folding).size := by
      refine Classical.not_not.1 fun cut => ?_
      obtain ⟨failure, failed, ofWrite⟩ := Printer.isOfWrite_iff.2 cut
      exact written failure failed ofWrite
    rw [Printer.print_append_of_fits fits, Printer.print_of_fits fits, Printer.print_nil,
      Printer.print_flushed]
  · intro failure failed ofWrite
    exact Printer.print_append_of_not_fits (Printer.isOfWrite_iff.1 ⟨failure, failed, ofWrite⟩) second

/-- A word, and a word that cannot be negated. -/
def Program.wordAndRejectedWord : Program :=
  [.print (.literal (.string "a")),
    .print (.unary ⟨.minus, "-", none, 2⟩ (.literal (.string "b")))]

/-- A folding printer with room for so many bytes, whose flushes fail. -/
def Printer.withRoomFor (limit : Nat) : Printer where
  folding := true
  sink := { limit := some limit, flushFails := true }

/-- With room for thirteen bytes, the first word is written, the second one is reported and the flush
fails; the third word is cut off.  With room for five, the first word is. -/
theorem print_wordAndRejectedWord_in_slices :
    ((Printer.withRoomFor 13).print Program.wordAndRejectedWord).1 = .error .flushFailed ∧
      ((Printer.withRoomFor 13).print Program.wordAndRejectedWord).2.print
          [.print (.literal (.string "c"))] =
        (.error .full,
          { folding := true
            sink := {
              stored := "(print a)\n(pr".toUTF8.data
              limit := some 13
              flushFails := true
              flushes := 1 }
            log := ⟨#[.invalidOperand ⟨.minus, "-", none, 2⟩ (.string "b")]⟩ }) ∧
      ((Printer.withRoomFor 5).print Program.wordAndRejectedWord).1 = .error .full ∧
      (Printer.withRoomFor 5).print
          (Program.wordAndRejectedWord ++ [.print (.literal (.string "c"))]) =
        (Printer.withRoomFor 5).print Program.wordAndRejectedWord := by
  have fits : (Printer.withRoomFor 13).sink.Fits (Program.bytes true .wordAndRejectedWord).size := by
    rintro _ ⟨⟩
    decide +kernel
  have flushed :
      ((Printer.withRoomFor 13).print Program.wordAndRejectedWord).1 = .error .flushFailed := by
    rw [Printer.print_of_fits fits]
    rfl
  have written : ∀ failure,
      ((Printer.withRoomFor 13).print Program.wordAndRejectedWord).1 = .error failure →
        ¬ failure.IsOfWrite := by
    rw [flushed]
    rintro _ ⟨⟩
    exact id
  have cut : ¬ (Printer.withRoomFor 5).sink.Fits
      (Program.bytes true .wordAndRejectedWord).size :=
    fun all => absurd (all 5 rfl) (by decide +kernel)
  have failed : ((Printer.withRoomFor 5).print Program.wordAndRejectedWord).1 = .error .full := by
    obtain ⟨_, _, _, _, _, _, _, printed⟩ := Printer.print_of_not_fits cut
    exact congrArg Prod.fst printed
  refine ⟨flushed, ?_, failed, (print_in_slices _ _ _).2 _ failed trivial⟩
  rw [(print_in_slices _ _ _).1 written, Printer.print_append_of_fits fits,
    (Printer.print_cons_of_not_fits (fun all => absurd (all 13 rfl) (by decide +kernel)) []).2]
  refine Prod.ext rfl ((Printer.mk.injEq ..).mpr ⟨rfl, ?_, ?_⟩)
  · decide +kernel
  · rfl

end LoxForms
