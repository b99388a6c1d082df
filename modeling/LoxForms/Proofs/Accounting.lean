import LoxForms.Printer
import LoxForms.Proofs.Folding

/-! # What a printer writes, reports and flushes

A printer that starts in any state writes the lines that can be rendered as if they were one text
(`Program.renderedText`): the sink gets as much of it as fits, and only if all of it fits is the sink
flushed.  What is reported are the failures in front of the line that was cut.
-/

namespace LoxForms

/-! ## The text of a program -/

namespace Program

/-- The lines that can be rendered, in order. -/
def renderedLines (folding : Bool) (program : Program) : List String :=
  program.filterMap fun statement => (statement.render folding).toOption

/-- The lines that can be rendered, with a line feed after each. -/
def renderedText (folding : Bool) (program : Program) : String :=
  (renderedLines folding program).foldr (fun line others => line ++ "\n" ++ others) ""

/-- The failures of the statements that cannot be rendered, in order. -/
def failures (folding : Bool) (program : Program) : List FoldError :=
  program.filterMap fun statement => FoldError.of? (statement.render folding)

/-- The bytes of the lines that can be rendered. -/
def bytes (folding : Bool) (program : Program) : Array UInt8 :=
  (renderedText folding program).toUTF8.data

@[simp] theorem bytes_nil (folding : Bool) : bytes folding [] = #[] := by
  simp [bytes, renderedText, renderedLines]

@[simp] theorem failures_nil (folding : Bool) : failures folding [] = [] := rfl

theorem bytes_cons (folding : Bool) (statement : Stmt) (others : Program) :
    bytes folding (statement :: others) = bytes folding [statement] ++ bytes folding others := by
  cases shown : statement.render folding <;>
    simp [bytes, renderedText, renderedLines, shown, Except.toOption]

theorem failures_cons (folding : Bool) (statement : Stmt) (others : Program) :
    failures folding (statement :: others) =
      failures folding [statement] ++ failures folding others := by
  rw [failures, ← List.singleton_append, List.filterMap_append]
  rfl

end Program

/-- The log after further failures have been reported. -/
def Log.reporting (log : Log) (failures : List FoldError) : Log :=
  ⟨log.failures ++ failures.toArray⟩

@[simp] theorem Log.reporting_nil (log : Log) : log.reporting [] = log := by
  simp [reporting]

@[simp] theorem Log.reporting_report (log : Log) (failure : FoldError) (failures : List FoldError) :
    (log.report failure).reporting failures = log.reporting (failure :: failures) := by
  simp [reporting, report]

/-- A reporter of messages gets the message of each failure. -/
theorem Log.messages_reporting (log : Log) (failures : List FoldError) :
    (log.reporting failures).messages =
      log.messages ++ (failures.map FoldError.message).toArray := by
  simp [messages, reporting]

theorem Log.reporting_inj {log : Log} {failures others : List FoldError} :
    log.reporting failures = log.reporting others ↔ failures = others := by
  rw [reporting, reporting, Log.mk.injEq, Array.append_right_inj]
  exact ⟨List.toArray_inj, congrArg List.toArray⟩

/-! ## Sinks -/

namespace Sink

/-- The sink has room for so many further bytes. -/
def Fits (sink : Sink) (size : Nat) : Prop :=
  ∀ limit ∈ sink.limit, size ≤ limit - sink.stored.size

/-- The sink with further bytes stored. -/
def appending (sink : Sink) (bytes : Array UInt8) : Sink :=
  { sink with stored := sink.stored ++ bytes }

/-- As many of the bytes as the sink has room for. -/
def fitting (sink : Sink) (bytes : Array UInt8) : Array UInt8 :=
  bytes.extract 0 (sink.accepted bytes.size)

/-- How a sink without room refuses to store bytes. -/
def refusal (sink : Sink) : SinkError := if sink.isSilent then .incomplete else .full

@[simp] theorem appending_empty (sink : Sink) : sink.appending #[] = sink := by
  simp [appending]

@[simp] theorem appending_appending (sink : Sink) (first second : Array UInt8) :
    (sink.appending first).appending second = sink.appending (first ++ second) := by
  simp [appending]

@[simp] theorem refusal_appending (sink : Sink) (bytes : Array UInt8) :
    (sink.appending bytes).refusal = sink.refusal := rfl

theorem le_accepted_iff {sink : Sink} {size available : Nat} :
    size ≤ sink.accepted available ↔ size ≤ available ∧ sink.Fits size := by
  unfold accepted Fits
  cases sink.limit with
  | none => simp
  | some limit => simp only [Nat.le_min, Option.mem_some_iff, forall_eq']

theorem accepted_of_fits {sink : Sink} {size : Nat} (fits : sink.Fits size) :
    sink.accepted size = size :=
  Nat.le_antisymm (le_accepted_iff.1 (Nat.le_refl _)).1 (le_accepted_iff.2 ⟨Nat.le_refl _, fits⟩)

@[simp] theorem size_fitting (sink : Sink) (bytes : Array UInt8) :
    (sink.fitting bytes).size = sink.accepted bytes.size := by
  have le := (le_accepted_iff.1 (Nat.le_refl (sink.accepted bytes.size))).1
  simp [fitting, Nat.min_eq_left le]

theorem fits_fitting (sink : Sink) (bytes : Array UInt8) :
    sink.Fits (sink.fitting bytes).size := by
  rw [size_fitting]
  exact (le_accepted_iff.1 (Nat.le_refl _)).2

theorem fitting_of_fits {sink : Sink} {bytes : Array UInt8} (fits : sink.Fits bytes.size) :
    sink.fitting bytes = bytes := by
  rw [fitting, accepted_of_fits fits, Array.extract_size]

theorem Fits.mono {sink : Sink} {size less : Nat} (fits : sink.Fits size) (le : less ≤ size) :
    sink.Fits less :=
  fun limit limited => Nat.le_trans le (fits limit limited)

/-- Bytes that fit take their room away from those after them. -/
theorem fits_appending_iff {sink : Sink} {bytes : Array UInt8} (fits : sink.Fits bytes.size)
    {size : Nat} : (sink.appending bytes).Fits size ↔ sink.Fits (bytes.size + size) := by
  refine forall₂_congr fun limit limited => ?_
  have enough := fits limit limited
  simp only [appending, Array.size_append]
  omega

theorem accepted_appending {sink : Sink} {first : Array UInt8} (fits : sink.Fits first.size)
    (size : Nat) :
    sink.accepted (first.size + size) = first.size + (sink.appending first).accepted size := by
  unfold accepted appending
  cases limited : sink.limit with
  | none => rfl
  | some limit =>
    have enough := fits limit limited
    simp only [Array.size_append]
    omega

theorem accepted_of_not_fits {sink : Sink} {size : Nat} (cut : ¬ sink.Fits size) (more : Nat) :
    sink.accepted (size + more) = sink.accepted size := by
  unfold Fits at cut
  unfold accepted
  cases limited : sink.limit with
  | none => simp [limited] at cut
  | some limit =>
    have short : limit - sink.stored.size < size := by simpa [limited] using cut
    simp only
    omega

/-- Of two texts in a row, all of the first fits and what then fits of the second. -/
theorem fitting_append {sink : Sink} {first : Array UInt8} (fits : sink.Fits first.size)
    (second : Array UInt8) :
    sink.fitting (first ++ second) = first ++ (sink.appending first).fitting second := by
  rw [fitting, Array.size_append, accepted_appending fits, Array.extract_append,
    Array.extract_eq_self_of_le (Nat.le_add_right _ _), fitting]
  simp

/-- Where the first of two texts is cut, nothing of the second fits. -/
theorem fitting_append_of_not_fits {sink : Sink} {first : Array UInt8}
    (cut : ¬ sink.Fits first.size) (second : Array UInt8) :
    sink.fitting (first ++ second) = sink.fitting first := by
  have le := (le_accepted_iff.1 (Nat.le_refl (sink.accepted first.size))).1
  rw [fitting, Array.size_append, accepted_of_not_fits cut, Array.extract_append, fitting]
  simp [Nat.sub_eq_zero_of_le le]

/-- The bytes are the longest prefix of the others for which the sink has room. -/
def IsLongestFitting (sink : Sink) (others bytes : Array UInt8) : Prop :=
  bytes.toList <+: others.toList ∧ sink.Fits bytes.size ∧
    ∀ longer : Array UInt8, longer.toList <+: others.toList → sink.Fits longer.size →
      longer.size ≤ bytes.size

theorem isLongestFitting_fitting (sink : Sink) (bytes : Array UInt8) :
    sink.IsLongestFitting bytes (sink.fitting bytes) := by
  refine ⟨?_, sink.fits_fitting bytes, fun longer part fits => ?_⟩
  · simpa [fitting] using List.take_prefix (sink.accepted bytes.size) bytes.toList
  · rw [size_fitting]
    exact le_accepted_iff.2 ⟨by simpa using part.length_le, fits⟩

theorem accepted_of_full {sink : Sink} (full : ¬ sink.Fits 1) (size : Nat) :
    sink.accepted size = 0 :=
  Nat.eq_zero_of_not_pos fun positive => full (le_accepted_iff.1 positive).2

/-- A sink that has no room left stores nothing more. -/
theorem writeAll_of_full {sink : Sink} {bytes : Array UInt8} (full : ¬ sink.Fits 1)
    (nonempty : bytes.size ≠ 0) : sink.writeAll bytes = (.error sink.refusal, sink) := by
  have notEmpty : bytes ≠ #[] := by
    rintro rfl
    exact nonempty rfl
  rw [writeAll, if_neg nonempty, write, accepted_of_full full, refusal]
  by_cases silent : sink.isSilent = true
  · rw [if_neg (by simp [silent]), if_pos silent]
    simp
  · simp [silent, notEmpty]

/-- One write stores what fits, and writing goes on with the bytes after that. -/
theorem writeAll_of_room {sink : Sink} {bytes : Array UInt8} (room : sink.Fits 1)
    (nonempty : bytes.size ≠ 0) :
    sink.writeAll bytes =
      (sink.appending (sink.fitting bytes)).writeAll (bytes.extract (sink.accepted bytes.size)) := by
  have positive : sink.accepted bytes.size ≠ 0 :=
    Nat.ne_of_gt (le_accepted_iff.2 ⟨Nat.pos_of_ne_zero nonempty, room⟩)
  obtain ⟨count, accepted⟩ := Nat.exists_eq_succ_of_ne_zero positive
  rw [writeAll, if_neg nonempty, write]
  simp [accepted, appending, fitting]

theorem writeAll_of_fits {sink : Sink} {bytes : Array UInt8} (fits : sink.Fits bytes.size) :
    sink.writeAll bytes = (.ok (), sink.appending bytes) := by
  by_cases empty : bytes.size = 0
  · rw [writeAll, if_pos empty, Array.size_eq_zero_iff.1 empty, appending_empty]
  · rw [writeAll_of_room (fits.mono (Nat.pos_of_ne_zero empty)) empty, fitting_of_fits fits,
      accepted_of_fits fits, writeAll, if_pos (by simp)]

theorem writeAll_of_not_fits {sink : Sink} {bytes : Array UInt8}
    (cut : ¬ sink.Fits bytes.size) :
    sink.writeAll bytes = (.error sink.refusal, sink.appending (sink.fitting bytes)) := by
  have nonempty : bytes.size ≠ 0 := fun empty => cut (by simp [Fits, empty])
  by_cases room : sink.Fits 1
  · have less : sink.accepted bytes.size < bytes.size :=
      Nat.lt_of_not_le fun all => cut (le_accepted_iff.1 all).2
    have full : ¬ (sink.appending (sink.fitting bytes)).Fits 1 := by
      rw [fits_appending_iff (sink.fits_fitting bytes), size_fitting]
      exact fun more => Nat.not_succ_le_self _ (le_accepted_iff.2 ⟨less, more⟩)
    rw [writeAll_of_room room nonempty, writeAll_of_full full (by simp; omega), refusal_appending]
  · have nothing : sink.fitting bytes = #[] := by simp [fitting, accepted_of_full room]
    rw [writeAll_of_full room nonempty, nothing, appending_empty]

/-! ### Lines -/

/-- The bytes of a line with its line feed. -/
def lineBytes (line : String) : Array UInt8 := (line ++ "\n").toUTF8.data

theorem lineBytes_eq (line : String) :
    lineBytes line = line.toUTF8.data ++ "\n".toUTF8.data := by
  simp [lineBytes]

theorem writeLine_of_fits {sink : Sink} {line : String} (fits : sink.Fits (lineBytes line).size) :
    sink.writeLine line = (.ok (), sink.appending (lineBytes line)) := by
  rw [lineBytes_eq, Array.size_append] at fits
  have first : sink.Fits line.toUTF8.data.size := fits.mono (Nat.le_add_right _ _)
  rw [writeLine, writeAll_of_fits first]
  dsimp only
  rw [writeAll_of_fits ((fits_appending_iff first).2 fits), appending_appending, lineBytes_eq]

/-- The cut is inside the line, or between the line and its line feed. -/
theorem writeLine_of_not_fits {sink : Sink} {line : String}
    (cut : ¬ sink.Fits (lineBytes line).size) :
    sink.writeLine line = (.error sink.refusal, sink.appending (sink.fitting (lineBytes line))) := by
  rw [writeLine]
  by_cases first : sink.Fits line.toUTF8.data.size
  · have second : ¬ (sink.appending line.toUTF8.data).Fits "\n".toUTF8.data.size := by
      rwa [fits_appending_iff first, ← Array.size_append, ← lineBytes_eq]
    rw [writeAll_of_fits first]
    dsimp only
    rw [writeAll_of_not_fits second, lineBytes_eq, fitting_append first, appending_appending,
      refusal_appending]
  · rw [writeAll_of_not_fits first]
    dsimp only
    rw [lineBytes_eq, fitting_append_of_not_fits first]

end Sink

/-! ## Printers -/

namespace Program

variable {folding : Bool} {statement : Stmt}

theorem bytes_of_ok {line : String} (shown : statement.render folding = .ok line) :
    bytes folding [statement] = Sink.lineBytes line := by
  simp [bytes, renderedText, renderedLines, shown, Except.toOption, Sink.lineBytes]

theorem bytes_of_error {failure : FoldError} (failed : statement.render folding = .error failure) :
    bytes folding [statement] = #[] := by
  simp [bytes, renderedText, renderedLines, failed, Except.toOption]

theorem failures_of_ok {line : String} (shown : statement.render folding = .ok line) :
    failures folding [statement] = [] := by
  simp [failures, shown, FoldError.of?]

theorem failures_of_error {failure : FoldError}
    (failed : statement.render folding = .error failure) :
    failures folding [statement] = [failure] := by
  simp [failures, failed, FoldError.of?]

end Program

namespace Printer

/-- The printer after it has stored bytes and reported failures. -/
def leaving (printer : Printer) (bytes : Array UInt8) (failures : List FoldError) : Printer :=
  { printer with
    sink := printer.sink.appending bytes
    log := printer.log.reporting failures }

@[simp] theorem folding_leaving (printer : Printer) (bytes : Array UInt8)
    (failures : List FoldError) : (printer.leaving bytes failures).folding = printer.folding := rfl

@[simp] theorem sink_leaving (printer : Printer) (bytes : Array UInt8)
    (failures : List FoldError) :
    (printer.leaving bytes failures).sink = printer.sink.appending bytes := rfl

@[simp] theorem leaving_leaving (printer : Printer) (first second : Array UInt8)
    (earlier later : List FoldError) :
    (printer.leaving first earlier).leaving second later =
      printer.leaving (first ++ second) (earlier ++ later) := by
  simp [leaving, Log.reporting]

/-- A statement that fits, as one that fails always does, leaves its line or its failure. -/
theorem print_cons_of_fits {printer : Printer} {statement : Stmt}
    (fits : printer.sink.Fits (Program.bytes printer.folding [statement]).size)
    (others : Program) :
    printer.print (statement :: others) =
      (printer.leaving (Program.bytes printer.folding [statement])
        (Program.failures printer.folding [statement])).print others := by
  cases shown : statement.render printer.folding with
  | error failure =>
    rw [print, shown, Program.bytes_of_error shown, Program.failures_of_error shown]
    simp [leaving, Log.reporting, Log.report]
  | ok line =>
    rw [Program.bytes_of_ok shown] at fits ⊢
    rw [print, shown, Program.failures_of_ok shown]
    dsimp only
    rw [Sink.writeLine_of_fits fits]
    simp [leaving]

theorem print_cons_of_not_fits {printer : Printer} {statement : Stmt}
    (cut : ¬ printer.sink.Fits (Program.bytes printer.folding [statement]).size)
    (others : Program) :
    (∃ line, statement.render printer.folding = .ok line) ∧
      printer.print (statement :: others) =
        (.error printer.sink.refusal,
          printer.leaving (printer.sink.fitting (Program.bytes printer.folding [statement])) []) := by
  cases shown : statement.render printer.folding with
  | error failure =>
    rw [Program.bytes_of_error shown] at cut
    exact absurd (by simp [Sink.Fits]) cut
  | ok line =>
    rw [Program.bytes_of_ok shown] at cut ⊢
    refine ⟨⟨line, rfl⟩, ?_⟩
    rw [print, shown]
    dsimp only
    rw [Sink.writeLine_of_not_fits cut]
    simp [leaving]

/-- If everything fits, the run goes on with what comes next. -/
theorem print_append_of_fits {printer : Printer} {program : Program}
    (fits : printer.sink.Fits (program.bytes printer.folding).size) (others : Program) :
    printer.print (program ++ others) =
      (printer.leaving (program.bytes printer.folding)
        (program.failures printer.folding)).print others := by
  induction program generalizing printer with
  | nil => simp [leaving]
  | cons statement program ih =>
    rw [Program.bytes_cons, Array.size_append] at fits
    have first := fits.mono (Nat.le_add_right _ _)
    have rest := (Sink.fits_appending_iff first).2 fits
    rw [List.cons_append, print_cons_of_fits first, ih (by simpa using rest), leaving_leaving,
      folding_leaving, Program.bytes_cons _ statement program,
      Program.failures_cons _ statement program]

theorem print_of_fits {printer : Printer} {program : Program}
    (fits : printer.sink.Fits (program.bytes printer.folding).size) :
    printer.print program =
      (printer.leaving (program.bytes printer.folding)
        (program.failures printer.folding)).print [] := by
  have printed := print_append_of_fits fits []
  rwa [List.append_nil] at printed

/-- Otherwise some line is the first that does not fit, and what comes after it plays no part. -/
theorem print_of_not_fits {printer : Printer} {program : Program}
    (cut : ¬ printer.sink.Fits (program.bytes printer.folding).size) :
    ∃ before statement after, program = before ++ statement :: after ∧
      (∃ line, statement.render printer.folding = .ok line) ∧
      printer.sink.Fits (Program.bytes printer.folding before).size ∧
      ¬ printer.sink.Fits (Program.bytes printer.folding (before ++ [statement])).size ∧
      printer.print program =
        (.error printer.sink.refusal,
          printer.leaving (printer.sink.fitting (program.bytes printer.folding))
            (Program.failures printer.folding before)) := by
  induction program generalizing printer with
  | nil => exact absurd (by simp [Sink.Fits]) cut
  | cons statement others ih =>
    rw [Program.bytes_cons] at cut ⊢
    by_cases first : printer.sink.Fits (Program.bytes printer.folding [statement]).size
    · rw [Array.size_append, ← Sink.fits_appending_iff first] at cut
      rw [print_cons_of_fits first, Sink.fitting_append first]
      obtain ⟨before, next, after, rfl, shown, fits, noRoom, printed⟩ :=
        @ih (printer.leaving (Program.bytes printer.folding [statement])
          (Program.failures printer.folding [statement])) cut
      rw [folding_leaving, sink_leaving, Sink.fits_appending_iff first] at fits noRoom
      refine ⟨statement :: before, next, after, rfl, shown, ?_, ?_, ?_⟩
      · rwa [Program.bytes_cons, Array.size_append]
      · rwa [List.cons_append, Program.bytes_cons, Array.size_append]
      · rw [printed, leaving_leaving, Program.failures_cons _ statement before]
        rfl
    · obtain ⟨shown, printed⟩ := print_cons_of_not_fits first others
      refine ⟨[], statement, others, rfl, shown, by simp [Sink.Fits], first, ?_⟩
      rw [printed, Sink.fitting_append_of_not_fits first]
      rfl

/-- A run stores as much of the program as fits. -/
theorem stored_print (printer : Printer) (program : Program) :
    (printer.print program).2.sink.stored =
      printer.sink.stored ++ printer.sink.fitting (program.bytes printer.folding) := by
  by_cases fits : printer.sink.Fits (program.bytes printer.folding).size
  · rw [print_of_fits fits, Sink.fitting_of_fits fits]
    rfl
  · obtain ⟨_, _, _, _, _, _, _, printed⟩ := print_of_not_fits fits
    rw [printed]
    rfl

end Printer

/-- What one run of a printer does, whatever its state.  The sink gets the longest part of the bytes
of the program that fits.  If that is all of them, the run ends with the result of the one flush, and
every failure is reported; if not, it ends with the refusal of the sink, without a flush, and the
failures in front of the first statement that does not fit are reported. -/
theorem print_accounting (printer : Printer) (program : Program) :
    ∃ kept, printer.sink.IsLongestFitting (program.bytes printer.folding) kept ∧
      (printer.sink.Fits (program.bytes printer.folding).size ∧
          printer.print program =
            (if printer.sink.flushFails then .error .flushFailed else .ok (),
              { printer with
                sink := { printer.sink with
                  stored := printer.sink.stored ++ kept
                  flushes := printer.sink.flushes + 1 }
                log := printer.log.reporting (program.failures printer.folding) }) ∨
        ¬ printer.sink.Fits (program.bytes printer.folding).size ∧
          ∃ before statement after, program = before ++ statement :: after ∧
            (∃ line, statement.render printer.folding = .ok line) ∧
            printer.sink.Fits (Program.bytes printer.folding before).size ∧
            ¬ printer.sink.Fits (Program.bytes printer.folding (before ++ [statement])).size ∧
            printer.print program =
              (.error (if printer.sink.isSilent then .incomplete else .full),
                { printer with
                  sink := { printer.sink with stored := printer.sink.stored ++ kept }
                  log := printer.log.reporting (Program.failures printer.folding before) })) := by
  refine ⟨_, printer.sink.isLongestFitting_fitting (program.bytes printer.folding), ?_⟩
  by_cases fits : printer.sink.Fits (program.bytes printer.folding).size
  · refine .inl ⟨fits, ?_⟩
    rw [Printer.print_of_fits fits, Sink.fitting_of_fits fits]
    rfl
  · exact .inr ⟨fits, Printer.print_of_not_fits fits⟩

end LoxForms
