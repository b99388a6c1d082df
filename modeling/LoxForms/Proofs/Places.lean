import LoxForms.Proofs.Splitting

/-! # Places of pieces in a text

A piece stands in its text behind the pieces before it, on the line that is reached there
(`exists_place`).  Lines are counted by line feeds alone, so a text that begins some lines further
down has the same pieces, as many lines further down (`split_add`).
-/

namespace LoxForms.Piece

/-- The characters of a piece. -/
def chars : Piece → List Char
  | .opening => ['(']
  | .closing => [')']
  | .atom text => text.toList

/-! ## Lines -/

theorem lineAfterAll_eq (line : UInt32) (cs : List Char) :
    lineAfterAll line cs = line + UInt32.ofNat (cs.count '\n') := by
  induction cs generalizing line with
  | nil => simp
  | cons c cs ih =>
    rw [lineAfterAll_cons, ih, List.count_cons, lineAfter]
    by_cases feed : c = '\n'
    · simp [feed, UInt32.add_assoc, UInt32.add_comm]
    · simp [feed]

/-- Without an overflow, a line is one more than the number of line feeds before it. -/
theorem toNat_lineAfterAll_one {cs : List Char} (bounded : cs.count '\n' < UInt32.size - 1) :
    (lineAfterAll 1 cs).toNat = 1 + cs.count '\n' := by
  rw [UInt32.size] at bounded
  rw [lineAfterAll_eq, UInt32.toNat_add, UInt32.toNat_ofNat']
  simp only [UInt32.toNat_one]
  omega

theorem lineAfter_add (line more : UInt32) (c : Char) :
    lineAfter (line + more) c = lineAfter line c + more := by
  unfold lineAfter
  split
  · rw [UInt32.add_assoc, UInt32.add_comm more, ← UInt32.add_assoc]
  · rfl

theorem delimiterPieces_add (line more : UInt32) (c : Char) :
    delimiterPieces (line + more) c =
      (delimiterPieces line c).map fun located => { located with line := located.line + more } := by
  unfold delimiterPieces
  split
  · rfl
  · split <;> rfl

/-- The pieces of a text that begins further down are the same, and each is as much further down. -/
theorem split_add (line more : UInt32) (cs : List Char) :
    split (line + more) cs =
      (split line cs).map fun located => { located with line := located.line + more } := by
  induction cs using run_induction generalizing line with
  | nil => simp
  | delimiter c cs delimiter ih =>
    rw [split_delimiter delimiter, split_delimiter delimiter, delimiterPieces_add, lineAfter_add,
      ih, List.map_append]
  | atom c run others first inside stop ih =>
    rw [split_atom first inside stop, split_atom first inside stop, ih, List.map_cons]

/-! ## Places -/

/-- A delimiter is no piece, or all of one. -/
theorem delimiterPieces_cases {c : Char} (delimiter : isAtomic c = false) (line : UInt32) :
    delimiterPieces line c = [] ∨
      ∃ piece, delimiterPieces line c = [⟨piece, line⟩] ∧ piece.chars = [c] := by
  rcases delimiter_cases delimiter with rfl | rfl | blank
  · exact .inr ⟨.opening, rfl, rfl⟩
  · exact .inr ⟨.closing, rfl, rfl⟩
  · exact .inl (delimiterPieces_of_isBlank blank line)

/-- The characters of a piece come behind the text whose pieces are those before it. -/
theorem exists_place {line : UInt32} {cs : List Char} {before after : List LocatedPiece}
    {located : LocatedPiece} (pieces : split line cs = before ++ located :: after) :
    ∃ head tail, cs = head ++ located.piece.chars ++ tail ∧ split line head = before ∧
      located.line = lineAfterAll line head := by
  induction cs using run_induction generalizing line before with
  | nil => simp at pieces
  | delimiter c cs delimiter ih =>
    rw [split_delimiter delimiter] at pieces
    by_cases here : before = [] ∧ delimiterPieces line c ≠ []
    · obtain ⟨rfl, isPiece⟩ := here
      rcases delimiterPieces_cases delimiter line with none | ⟨piece, one, itsChars⟩
      · exact absurd none isPiece
      · rw [one] at pieces
        obtain ⟨rfl, -⟩ := List.cons.inj pieces
        exact ⟨[], cs, by simp [itsChars], split_nil line, rfl⟩
    · obtain ⟨rest, rfl, later⟩ : ∃ rest, before = delimiterPieces line c ++ rest ∧
          split (lineAfter line c) cs = rest ++ located :: after := by
        rcases delimiterPieces_cases delimiter line with none | ⟨piece, one, _⟩
        · exact ⟨before, by simp [none], by simpa [none] using pieces⟩
        · cases before with
          | nil => exact absurd ⟨rfl, by simp [one]⟩ here
          | cons first rest =>
            rw [one] at pieces ⊢
            obtain ⟨rfl, later⟩ := List.cons.inj pieces
            exact ⟨rest, rfl, later⟩
      obtain ⟨head, tail, rfl, rfl, onLine⟩ := ih later
      exact ⟨c :: head, tail, rfl, split_delimiter delimiter line head, onLine⟩
  | atom c run others first inside stop ih =>
    rw [split_atom first inside stop] at pieces
    cases before with
    | nil =>
      obtain ⟨rfl, -⟩ := List.cons.inj pieces
      exact ⟨[], others, by simp [chars], split_nil line, rfl⟩
    | cons piece before =>
      rw [List.cons_append, List.cons.injEq] at pieces
      obtain ⟨rfl, pieces⟩ := pieces
      obtain ⟨head, tail, rfl, rfl, onLine⟩ := ih pieces
      have runAtomic : ∀ d ∈ c :: run, isAtomic d = true := by simpa [first] using inside
      refine ⟨c :: (run ++ head), tail, by simp, ?_, ?_⟩
      · refine split_atom first inside (fun d isHead => stop d ?_) line
        rw [List.head?_append, List.head?_append, Option.mem_def.1 isHead]
        rfl
      · rw [onLine, ← List.cons_append, lineAfterAll_append,
          lineAfterAll_of_not_mem (newline_not_mem runAtomic)]

/-- Without an overflow, no piece is further down than its text has line feeds. -/
theorem toNat_line_le {cs : List Char} (bounded : cs.count '\n' < UInt32.size - 1)
    {located : LocatedPiece} (member : located ∈ split 1 cs) :
    located.line.toNat ≤ 1 + cs.count '\n' := by
  obtain ⟨before, after, pieces⟩ := List.append_of_mem member
  obtain ⟨head, tail, rfl, _, onLine⟩ := exists_place pieces
  have fewer : head.count '\n' ≤ (head ++ located.piece.chars ++ tail).count '\n' := by
    rw [List.append_assoc, List.count_append]
    exact Nat.le_add_right _ _
  rw [onLine, toNat_lineAfterAll_one (Nat.lt_of_le_of_lt fewer bounded)]
  exact Nat.add_le_add_left fewer 1

end LoxForms.Piece
