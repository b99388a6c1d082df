import Mathlib.Data.List.Chain
import Mathlib.Logic.ExistsUnique
import LoxForms.Proofs.Places

/-! # Spacing

The same pieces can be written with blank characters of any kind before, between and behind them, and
only between two atoms there has to be at least one.  A `Spacing` is one way to do this.  Its text is
split into its pieces, each on the line that is reached in front of it (`split_chars`), and every text
is that of a spacing (`exists_spacing`).  So splitting undoes every spacing, and nothing but blanks
gets lost.
-/

namespace LoxForms

open Piece

/-! ## Pieces behind blanks -/

def Piece.isAtom : Piece → Bool
  | .atom _ => true
  | _ => false

/-- A piece and the blank characters in front of it. -/
structure SpacedPiece where
  blanks : String
  piece : Piece
  isBlank : ∀ c ∈ blanks.toList, Text.isBlank c = true
  isAtomText : ∀ text, piece = .atom text → IsAtomText text

namespace SpacedPiece

def chars (spaced : SpacedPiece) : List Char := spaced.blanks.toList ++ spaced.piece.chars

def unspaced (piece : Piece) (proper : ∀ text, piece = .atom text → IsAtomText text) :
    SpacedPiece where
  blanks := ""
  piece := piece
  isBlank := by simp
  isAtomText := proper

/-- The piece with one more blank in front. -/
def behind (c : Char) (blank : Text.isBlank c = true) (spaced : SpacedPiece) : SpacedPiece where
  blanks := String.ofList (c :: spaced.blanks.toList)
  piece := spaced.piece
  isBlank := by simpa [blank] using spaced.isBlank
  isAtomText := spaced.isAtomText

/-- Between two atoms there is a blank. -/
def Separated (first second : SpacedPiece) : Prop :=
  first.piece.isAtom = true → second.piece.isAtom = true → second.blanks ≠ ""

/-- The pieces, with the lines they stand on in a text that begins on the given line. -/
def located (line : UInt32) : List SpacedPiece → List LocatedPiece
  | [] => []
  | spaced :: others =>
    ⟨spaced.piece, lineAfterAll line spaced.blanks.toList⟩ ::
      located (lineAfterAll line spaced.chars) others

theorem map_piece_located (line : UInt32) (pieces : List SpacedPiece) :
    (located line pieces).map LocatedPiece.piece = pieces.map piece := by
  induction pieces generalizing line with
  | nil => rfl
  | cons spaced others ih => exact congrArg (spaced.piece :: ·) (ih _)

/-- A piece is on the line that is reached behind the pieces and the blanks in front of it. -/
theorem getElem?_located (line : UInt32) (before after : List SpacedPiece) (spaced : SpacedPiece) :
    (located line (before ++ spaced :: after))[before.length]? =
      some ⟨spaced.piece, lineAfterAll line (before.flatMap chars ++ spaced.blanks.toList)⟩ := by
  induction before generalizing line with
  | nil => simp [located]
  | cons first before ih => simp [located, ih]

end SpacedPiece

/-! ## Splitting -/

namespace Piece

theorem split_blanks {blanks : List Char} (blank : ∀ c ∈ blanks, Text.isBlank c = true)
    (line : UInt32) (rest : List Char) :
    split line (blanks ++ rest) = split (lineAfterAll line blanks) rest := by
  have apart : Apart blanks rest :=
    .inl fun c last => isAtomic_of_isBlank (blank c (List.mem_of_getLast? last))
  rw [split_append apart, split_eq_nil_iff.2 blank, List.nil_append]

/-- An atom ends where no further atomic character follows; a parenthesis is complete by itself. -/
theorem split_piece {piece : Piece} {rest : List Char}
    (proper : ∀ text, piece = .atom text → IsAtomText text)
    (stop : piece.isAtom = true → ∀ c ∈ rest.head?, isAtomic c = false) (line : UInt32) :
    split line (piece.chars ++ rest) = ⟨piece, line⟩ :: split line rest := by
  cases piece with
  | opening => exact split_delimiter (by decide) line rest
  | closing => exact split_delimiter (by decide) line rest
  | atom text =>
    have atom := proper text rfl
    have nonempty : text.toList ≠ [] := fun empty => atom.1 (String.toList_eq_nil_iff.1 empty)
    rw [chars, split_run nonempty atom.2 (stop rfl), String.ofList_toList]

theorem isBlank_of_mem_chars {piece : Piece}
    (proper : ∀ text, piece = .atom text → IsAtomText text) {c : Char} (member : c ∈ piece.chars) :
    Text.isBlank c = false := by
  cases piece with
  | opening =>
    obtain rfl := List.mem_singleton.1 member
    decide
  | closing =>
    obtain rfl := List.mem_singleton.1 member
    decide
  | atom text =>
    cases blank : Text.isBlank c with
    | false => rfl
    | true => exact absurd ((proper text rfl).2 c member) (by simp [isAtomic_of_isBlank blank])

theorem lineAfterAll_chars {piece : Piece}
    (proper : ∀ text, piece = .atom text → IsAtomText text) (line : UInt32) :
    lineAfterAll line piece.chars = line :=
  lineAfterAll_of_not_mem
    (fun member => absurd (isBlank_of_mem_chars proper member) (by decide)) line

end Piece

/-! ## Texts around their pieces -/

/-- Pieces with blank characters in front of each of them and at the end. -/
structure Spacing where
  spaced : List SpacedPiece
  ending : String
  separated : spaced.IsChain SpacedPiece.Separated
  isBlank : ∀ c ∈ ending.toList, Text.isBlank c = true

namespace Spacing

def pieces (spacing : Spacing) : List Piece := spacing.spaced.map SpacedPiece.piece

def chars (spacing : Spacing) : List Char :=
  spacing.spaced.flatMap SpacedPiece.chars ++ spacing.ending.toList

def text (spacing : Spacing) : String := String.ofList spacing.chars

/-- No character of a later piece can become part of an atom. -/
theorem head?_of_separated {first : SpacedPiece} {others : List SpacedPiece} {ending : List Char}
    (separated : (first :: others).IsChain SpacedPiece.Separated)
    (blank : ∀ c ∈ ending, Text.isBlank c = true) (atom : first.piece.isAtom = true) :
    ∀ c ∈ (others.flatMap SpacedPiece.chars ++ ending).head?, isAtomic c = false := by
  intro c head
  cases others with
  | nil => exact isAtomic_of_isBlank (blank c (List.mem_of_head? head))
  | cons second others =>
    have apart := (List.isChain_cons_cons.1 separated).1 atom
    rw [List.flatMap_cons, SpacedPiece.chars] at head
    cases blanks : second.blanks.toList with
    | cons d others =>
      have same : d = c := by simpa [blanks] using head
      exact isAtomic_of_isBlank (second.isBlank c (by simp [blanks, same]))
    | nil =>
      rw [blanks] at head
      cases piece : second.piece with
      | atom text => exact absurd (String.toList_eq_nil_iff.1 blanks) (apart (by simp [piece, isAtom]))
      | opening =>
        have same : '(' = c := by simpa [piece, Piece.chars] using head
        rw [← same]
        decide
      | closing =>
        have same : ')' = c := by simpa [piece, Piece.chars] using head
        rw [← same]
        decide

theorem split_chars (spacing : Spacing) (line : UInt32) :
    split line spacing.chars = SpacedPiece.located line spacing.spaced := by
  obtain ⟨pieces, ending, separated, blank⟩ := spacing
  simp only [chars]
  induction pieces generalizing line with
  | nil => exact split_eq_nil_iff.2 blank
  | cons first others ih =>
    have stop := head?_of_separated separated blank
    rw [List.flatMap_cons, SpacedPiece.chars, List.append_assoc, List.append_assoc,
      split_blanks first.isBlank, split_piece first.isAtomText stop, ih _ separated.tail,
      SpacedPiece.located, SpacedPiece.chars, lineAfterAll_append,
      lineAfterAll_chars first.isAtomText]

/-! ### Every text is spaced in some way -/

/-- A piece that comes in front without a blank behind it is separated from the next one if that does
not begin with an atomic character. -/
theorem isChain_cons {first : SpacedPiece} {spacing : Spacing}
    (stop : first.piece.isAtom = true → ∀ c ∈ spacing.chars.head?, isAtomic c = false) :
    (first :: spacing.spaced).IsChain SpacedPiece.Separated := by
  refine List.isChain_cons.2 ⟨fun second isNext atom secondAtom unspaced => ?_, spacing.separated⟩
  obtain ⟨others, spaced⟩ := List.head?_eq_some_iff.1 isNext
  cases isPiece : second.piece with
  | opening => simp [isPiece, isAtom] at secondAtom
  | closing => simp [isPiece, isAtom] at secondAtom
  | atom text =>
    have word := second.isAtomText text isPiece
    cases run : text.toList with
    | nil => exact word.1 (String.toList_eq_nil_iff.1 run)
    | cons c run' =>
      have delimiter := stop atom c
        (by simp [chars, spaced, SpacedPiece.chars, unspaced, isPiece, Piece.chars, run])
      have atomic := word.2 c (by simp [run])
      rw [delimiter] at atomic
      cases atomic

/-- The spacing with one more piece in front. -/
def cons (piece : Piece) (proper : ∀ text, piece = .atom text → IsAtomText text) (spacing : Spacing)
    (stop : piece.isAtom = true → ∀ c ∈ spacing.chars.head?, isAtomic c = false) : Spacing where
  spaced := .unspaced piece proper :: spacing.spaced
  ending := spacing.ending
  separated := isChain_cons stop
  isBlank := spacing.isBlank

theorem chars_cons (spacing : Spacing) (piece : Piece)
    (proper : ∀ text, piece = .atom text → IsAtomText text)
    (stop : piece.isAtom = true → ∀ c ∈ spacing.chars.head?, isAtomic c = false) :
    (spacing.cons piece proper stop).chars = piece.chars ++ spacing.chars := by
  simp [cons, chars, SpacedPiece.chars, SpacedPiece.unspaced]

theorem exists_cons_blank {c : Char} (blank : Text.isBlank c = true) (spacing : Spacing) :
    ∃ other : Spacing, other.chars = c :: spacing.chars := by
  obtain ⟨pieces, ending, separated, isBlank⟩ := spacing
  cases pieces with
  | nil =>
    refine ⟨⟨[], String.ofList (c :: ending.toList), .nil, ?_⟩, by simp [chars]⟩
    simpa [blank] using isBlank
  | cons first others =>
    refine ⟨⟨first.behind c blank :: others, ending, ?_, isBlank⟩,
      by simp [chars, SpacedPiece.chars, SpacedPiece.behind]⟩
    rw [List.isChain_cons] at separated ⊢
    exact separated

/-- Every text is that of a spacing. -/
theorem exists_spacing (cs : List Char) : ∃ spacing : Spacing, spacing.chars = cs := by
  induction cs using run_induction with
  | nil => exact ⟨⟨[], "", .nil, by simp⟩, rfl⟩
  | delimiter c cs delimiter ih =>
    obtain ⟨spacing, rfl⟩ := ih
    rcases delimiter_cases delimiter with rfl | rfl | blank
    · exact ⟨_, spacing.chars_cons .opening nofun nofun⟩
    · exact ⟨_, spacing.chars_cons .closing nofun nofun⟩
    · exact spacing.exists_cons_blank blank
  | atom c run others first inside stop ih =>
    obtain ⟨spacing, rfl⟩ := ih
    have proper : ∀ text, Piece.atom (String.ofList (c :: run)) = .atom text → IsAtomText text := by
      intro text same
      rw [← Piece.atom.inj same]
      exact ⟨by simp [← String.toList_inj], by simpa [first] using inside⟩
    exact ⟨_, (spacing.chars_cons _ proper fun _ => stop).trans (by simp [Piece.chars])⟩

/-- All characters that are not blank are in the pieces. -/
theorem flatMap_chars_pieces (spacing : Spacing) :
    spacing.pieces.flatMap Piece.chars = spacing.chars.filter fun c => !Text.isBlank c := by
  have ofPiece : ∀ spaced : SpacedPiece,
      spaced.chars.filter (fun c => !Text.isBlank c) = spaced.piece.chars := by
    intro spaced
    rw [SpacedPiece.chars, List.filter_append, List.filter_eq_nil_iff.2, List.nil_append,
      List.filter_eq_self.2]
    · intro c member
      simp [isBlank_of_mem_chars spaced.isAtomText member]
    · intro c member
      simp [spaced.isBlank c member]
  have nothing : spacing.ending.toList.filter (fun c => !Text.isBlank c) = [] := by
    rw [List.filter_eq_nil_iff]
    intro c member
    simp [spacing.isBlank c member]
  rw [chars, List.filter_append, nothing, List.append_nil, List.filter_flatMap, pieces,
    List.flatMap_map]
  exact congrArg (spacing.spaced.flatMap ·) (funext fun spaced => (ofPiece spaced).symm)

end Spacing

/-- Splitting a text undoes every spacing of pieces.  The pieces come back in order, and each of them
is on the line that is one more than the number of line feeds in front of it, as long as lines are
counted without an overflow.  Every text is a spacing of exactly one sequence of pieces, and these
have all its characters that are not blank, in order. -/
theorem ofSource_undoes_spacing :
    (∀ spacing : Spacing,
      (ofSource spacing.text).map LocatedPiece.piece = spacing.pieces ∧
      (spacing.text.toList.count '\n' < UInt32.size - 1 →
        ∀ before spaced after, spacing.spaced = before ++ spaced :: after →
          ∃ located, (ofSource spacing.text)[before.length]? = some located ∧
            located.piece = spaced.piece ∧
            located.line.toNat =
              1 + (before.flatMap SpacedPiece.chars ++ spaced.blanks.toList).count '\n')) ∧
    ∀ source : String,
      (∃! pieces, ∃ spacing : Spacing, spacing.text = source ∧ spacing.pieces = pieces) ∧
      ((ofSource source).map LocatedPiece.piece).flatMap Piece.chars =
        source.toList.filter fun c => !Text.isBlank c := by
  have undone (spacing : Spacing) :
      ofSource spacing.text = SpacedPiece.located 1 spacing.spaced := by
    rw [ofSource, Spacing.text, String.toList_ofList, spacing.split_chars]
  have pieces_eq (spacing : Spacing) :
      (ofSource spacing.text).map LocatedPiece.piece = spacing.pieces := by
    rw [undone, SpacedPiece.map_piece_located, Spacing.pieces]
  refine ⟨fun spacing => ⟨pieces_eq spacing, fun bounded before spaced after parts => ?_⟩,
    fun source => ?_⟩
  · refine ⟨_, by rw [undone, parts, SpacedPiece.getElem?_located], rfl, toNat_lineAfterAll_one ?_⟩
    have fewer : (before.flatMap SpacedPiece.chars ++ spaced.blanks.toList).count '\n' ≤
        spacing.text.toList.count '\n' := by
      rw [Spacing.text, String.toList_ofList, Spacing.chars, parts]
      simp only [List.flatMap_append, List.flatMap_cons, SpacedPiece.chars, List.count_append]
      omega
    omega
  · obtain ⟨spacing, chars⟩ := Spacing.exists_spacing source.toList
    obtain rfl : spacing.text = source := by rw [Spacing.text, chars, String.ofList_toList]
    refine ⟨⟨_, ⟨spacing, rfl, rfl⟩, ?_⟩, ?_⟩
    · rintro _ ⟨other, same, rfl⟩
      rw [← pieces_eq, same, pieces_eq]
    · rw [pieces_eq, spacing.flatMap_chars_pieces, chars]

/-- A form with a line separator between its two atoms, which counts no line, and two line feeds. -/
def Spacing.printOnTwoLines : Spacing where
  spaced := [
    ⟨"\n", .opening, List.all_eq_true.1 rfl, nofun⟩,
    ⟨"", .atom "print", nofun, by rintro _ ⟨⟩; decide⟩,
    ⟨"\u2028", .atom "a", List.all_eq_true.1 rfl, by rintro _ ⟨⟩; decide⟩,
    ⟨"\r\n", .closing, List.all_eq_true.1 rfl, nofun⟩]
  ending := " "
  separated := by simp [SpacedPiece.Separated, isAtom]
  isBlank := List.all_eq_true.1 rfl

theorem ofSource_printOnTwoLines :
    Spacing.printOnTwoLines.text = "\n(print\u2028a\r\n) " ∧
      (ofSource "\n(print\u2028a\r\n) ").map LocatedPiece.piece =
        [.opening, .atom "print", .atom "a", .closing] ∧
      (∃ located, (ofSource "\n(print\u2028a\r\n) ")[2]? = some located ∧
        located.piece = .atom "a" ∧ located.line.toNat = 1 + 1) ∧
      ∃ located, (ofSource "\n(print\u2028a\r\n) ")[3]? = some located ∧
        located.piece = .closing ∧ located.line.toNat = 1 + 2 := by
  have text : Spacing.printOnTwoLines.text = "\n(print\u2028a\r\n) " := by decide +kernel
  have bounded : Spacing.printOnTwoLines.text.toList.count '\n' < UInt32.size - 1 := by
    decide +kernel
  obtain ⟨pieces, lines⟩ := ofSource_undoes_spacing.1 .printOnTwoLines
  have word := lines bounded [_, _] _ [_] rfl
  have closing := lines bounded [_, _, _] _ [] rfl
  rw [text] at pieces word closing
  exact ⟨text, pieces, word, closing⟩

end LoxForms
