import LoxForms.Proofs.Reading.Truncated
import LoxForms.Proofs.RoundTrip

/-! # Programs that a full sink has cut off

A sink that has run full holds the beginning of what was to be printed.  If that is text at all, it
is one that has been cut off between two characters, and is read as some of the statements or not at
all.
-/

namespace LoxForms

open Piece Reading

/-- Bytes that are text and begin another text are the bytes of its first characters. -/
theorem exists_eq_append_of_toUTF8 {text kept : String} {size : Nat}
    (bytes : kept.toUTF8.data = text.toUTF8.data.extract 0 size) :
    ∃ rest, text = kept ++ rest := by
  have whole : kept.toUTF8 ++ ⟨text.toUTF8.data.extract size⟩ = text.toUTF8 := by
    rw [ByteArray.ext_iff, ByteArray.data_append, bytes, Array.extract_append_extract,
      Nat.zero_min, Array.extract_eq_self_of_le (Nat.le_max_right _ _)]
  -- The bytes of one character do not begin those of another, so the characters agree as well.
  have isPrefix : kept.toList <+: text.toList := by
    apply List.isPrefix_of_utf8Encode_append_eq_utf8Encode ⟨text.toUTF8.data.extract size⟩
    rw [String.utf8Encode_toList, String.utf8Encode_toList]
    exact whole
  obtain ⟨others, chars⟩ := isPrefix
  exact ⟨String.ofList others, by simp [← String.toList_inj, chars]⟩

theorem Program.numbered_take (value : Value → Value) (program : Program) (count : Nat) :
    (numbered value program).take count = numbered value (program.take count) := by
  apply List.ext_getElem (by simp [numbered])
  intro index _ _
  simp [numbered]

/-- However a text that is read has been cut off, its beginning is read as the first statements or not
at all. -/
theorem read_eq_take_or_error {program : Program} {kept rest : String}
    (accepted : Program.read (kept ++ rest) = .ok program) :
    (∃ count, Program.read kept = .ok (program.take count)) ∨
      ∃ failure, Program.read kept = .error failure := by
  by_cases outside : (Nesting.ofText kept).depth = 0
  · exact .inl ⟨_, read_of_outside accepted outside⟩
  · by_cases cuts : ∃ head line, CutsHead kept rest head line
    · obtain ⟨head, line, cuts⟩ := cuts
      exact .inr ⟨_, read_of_cutsHead accepted cuts⟩
    · exact .inr ⟨_, read_of_inside accepted outside fun head line here => cuts ⟨head, line, here⟩⟩

theorem exists_eq_append_of_stored {printer : Printer} {program : Program} {kept : String}
    (stored : (printer.print program).2.sink.stored = printer.sink.stored ++ kept.toUTF8.data) :
    ∃ rest, program.renderedText printer.folding = kept ++ rest := by
  rw [Printer.stored_print, Array.append_right_inj] at stored
  exact exists_eq_append_of_toUTF8 stored.symm

/-- The statements that are read of a text that has been cut off are the first of those that it was
printed for. -/
theorem read_numbered_take_or_error {value : Value → Value} {program : Program}
    {kept rest : String} (cut : program.text = kept ++ rest)
    (accepted : Program.read program.text = .ok (Program.numbered value program)) :
    (∃ count, Program.read kept = .ok (Program.numbered value (program.take count))) ∨
      ∃ failure, Program.read kept = .error failure := by
  rw [cut] at accepted
  rcases read_eq_take_or_error accepted with ⟨count, read⟩ | failed
  · exact .inl ⟨count, by rw [read, Program.numbered_take]⟩
  · exact .inr failed

/-- A text that has been cut off is never misread.  Outside all statements, it is read as those that
are complete; part of the head of a statement is an unknown head; and anything else ends too early.
So what a sink has kept of a program, if it is text, is read as the beginning of what the whole of it
is read as, or not at all.  Without folding that is the beginning of the program, with a word for each
infinity if it was read itself, and unchanged if it is representable. -/
theorem read_cut_off :
    (∀ (source : String) (program : Program), Program.read source = .ok program →
      ∀ kept rest : String, source = kept ++ rest →
        ((Nesting.ofText kept).depth = 0 →
          Program.read kept = .ok (program.take (Nesting.ofText kept).closed)) ∧
        (∀ head line, CutsHead kept rest head line →
          Program.read kept = .error (.unknownForm head line)) ∧
        ((Nesting.ofText kept).depth ≠ 0 → (∀ head line, ¬ CutsHead kept rest head line) →
          Program.read kept = .error .prematureTermination)) ∧
    (∀ (printer : Printer) (program : Program) (kept : String),
      (printer.print program).2.sink.stored = printer.sink.stored ++ kept.toUTF8.data →
        (∃ rest, program.renderedText printer.folding = kept ++ rest) ∧
        (∀ whole, Program.read (program.renderedText printer.folding) = .ok whole →
          (∃ count, Program.read kept = .ok (whole.take count)) ∨
            ∃ failure, Program.read kept = .error failure) ∧
        (printer.folding = false → (∃ source, Program.read source = .ok program) →
          (∃ count, Program.read kept = .ok (Program.numbered Value.reread (program.take count))) ∨
            ∃ failure, Program.read kept = .error failure) ∧
        (printer.folding = false → program.IsRepresentable →
          (∃ count, Program.read kept = .ok (Program.numbered id (program.take count))) ∨
            ∃ failure, Program.read kept = .error failure)) := by
  constructor
  · rintro source program accepted kept rest rfl
    exact ⟨read_of_outside accepted, fun head line => read_of_cutsHead accepted,
      read_of_inside accepted⟩
  · intro printer program kept stored
    obtain ⟨rest, cut⟩ := exists_eq_append_of_stored stored
    refine ⟨⟨rest, cut⟩, fun whole accepted => ?_, fun plain wasRead => ?_,
      fun plain representable => ?_⟩
    · rw [cut] at accepted
      exact read_eq_take_or_error accepted
    · obtain ⟨source, accepted⟩ := wasRead
      rw [plain, Program.renderedText_plain] at cut
      exact read_numbered_take_or_error cut
        (Program.read_text (Program.conforms_of_read accepted))
    · rw [plain, Program.renderedText_plain] at cut
      exact read_numbered_take_or_error cut
        (Program.read_text_of_isRepresentable representable)

/-- A word, and on the second line a variable that stands for a comparison. -/
def Program.wordAndComparison : Program :=
  [.expression (.literal (.string "a")),
    .declaration ⟨.identifier, "b", none, 2⟩
      (.binary (.literal (.string "c")) ⟨.equalEqual, "==", none, 2⟩ (.literal (.string "d")))]

/-- The cuts are behind the first statement, in the head of the second one, and in the operator, which
leaves the head of an assignment.  The sink has room for twelve bytes. -/
theorem read_wordAndComparison_cut_off :
    Program.read "(expr a)\n(var b (== c d))" = .ok .wordAndComparison ∧
      Program.read "(expr a)\n" = .ok [.expression (.literal (.string "a"))] ∧
      Program.read "(expr a)\n(va" = .error (.unknownForm "va" 2) ∧
      Program.read "(expr a)\n(var b (=" = .error .prematureTermination ∧
      (Printer.print { sink := { limit := some 12 } } .wordAndComparison).2.sink.stored =
        "(expr a)\n(va".toUTF8.data ∧
      ((∃ count, Program.read "(expr a)\n(va" =
          .ok ((Program.numbered id .wordAndComparison).take count)) ∨
        ∃ failure, Program.read "(expr a)\n(va" = .error failure) ∧
      ((∃ count, Program.read "(expr a)\n(va" =
          .ok (Program.numbered Value.reread (Program.wordAndComparison.take count))) ∨
        ∃ failure, Program.read "(expr a)\n(va" = .error failure) ∧
      ((∃ count, Program.read "(expr a)\n(va" =
          .ok (Program.numbered id (Program.wordAndComparison.take count))) ∨
        ∃ failure, Program.read "(expr a)\n(va" = .error failure) := by
  have accepted : Program.read "(expr a)\n(var b (== c d))" = .ok .wordAndComparison := by
    have pieces : Piece.ofSource "(expr a)\n(var b (== c d))" =
        formPieces 1 1 1 "expr" [⟨.atom "a", 1⟩] ++
          (formPieces 2 2 2 "var" (⟨.atom "b", 2⟩ ::
            formPieces 2 2 2 "==" ([⟨.atom "c", 2⟩] ++ [⟨.atom "d", 2⟩])) ++ []) := by
      decide +kernel
    rw [programRead_eq_ok_iff, pieces]
    exact .cons (.expression 1 1 1 (.literal "a" 1)) (.cons (.declaration 2 2 2 2 (by decide)
      (.binary 2 2 2 .equalEqual (.literal "c" 2) (.literal "d" 2))) .nil)
  have representable : Program.IsRepresentable .wordAndComparison := by
    have word : ∀ text ∈ ["a", "c", "d"], (Value.string text).IsRepresentable := by
      simp only [List.forall_mem_cons]
      exact ⟨⟨by decide, by decide, by decide, by decide, rfl⟩,
        ⟨by decide, by decide, by decide, by decide, rfl⟩,
        ⟨by decide, by decide, by decide, by decide, rfl⟩, nofun⟩
    simp only [Program.IsRepresentable, Program.wordAndComparison, List.forall_mem_cons]
    exact ⟨word "a" (by decide), ⟨⟨rfl, rfl, by decide⟩, word "c" (by decide),
      ⟨.equalEqual, rfl⟩, word "d" (by decide)⟩, nofun⟩
  have wholeRead : Program.read (Program.renderedText false .wordAndComparison) =
      .ok (Program.numbered id .wordAndComparison) := by
    rw [Program.renderedText_plain, Program.read_text_of_isRepresentable representable]
  have stored : (Printer.print { sink := { limit := some 12 } } .wordAndComparison).2.sink.stored =
      "(expr a)\n(va".toUTF8.data := by
    rw [Printer.stored_print]
    decide +kernel
  have texts := read_cut_off.1 _ _ accepted
  obtain ⟨_, whole, again, same⟩ := read_cut_off.2 { sink := { limit := some 12 } }
    .wordAndComparison "(expr a)\n(va" (stored.trans Array.empty_append.symm)
  refine ⟨accepted, ?_, ?_, ?_, stored, whole _ wholeRead, again rfl ⟨_, accepted⟩,
    same rfl representable⟩
  · exact (texts "(expr a)\n" "(var b (== c d))" (by decide)).1 (by decide +kernel)
  · refine (texts "(expr a)\n(va" "r b (== c d))" (by decide)).2.1 "va" 2 ?_
    exact ⟨"(expr a)\n", "", by decide, by decide +kernel, by simp, by decide,
      ⟨'r', rfl, by decide⟩, by decide +kernel⟩
  · have depth : (Nesting.ofText "(expr a)\n(var b (=").depth = 2 := by decide +kernel
    apply (texts "(expr a)\n(var b (=" "= c d))" (by decide)).2.2
    · rw [depth]
      decide
    · intro head line cuts
      have one := cuts.depth_eq
      rw [depth] at one
      cases one

end LoxForms
