import LoxForms.Piece

/-! # Splitting a text in two

A text is split piece by piece: a delimiter stands for itself or for nothing, and a run of other
characters is one atom.  Where no run reaches over the border between two texts (`Apart`), the
pieces of both together are those of the first and then those of the second, on the line where the
first one ends (`split_append`).  Anywhere else the border cuts one atom in two (`IsCut`).
-/

namespace LoxForms.Piece

/-- An atom is not empty and has no delimiter in it. -/
def IsAtomText (text : String) : Prop := text ≠ "" ∧ ∀ c ∈ text.toList, isAtomic c = true

instance (text : String) : Decidable (IsAtomText text) :=
  decidable_of_iff (text ≠ "" ∧ text.toList.all isAtomic = true) (by simp [IsAtomText])

/-- The line on which a text ends that begins on the given one. -/
def lineAfterAll (line : UInt32) (cs : List Char) : UInt32 := cs.foldl lineAfter line

@[simp] theorem lineAfterAll_nil (line : UInt32) : lineAfterAll line [] = line := rfl

@[simp] theorem lineAfterAll_cons (line : UInt32) (c : Char) (cs : List Char) :
    lineAfterAll line (c :: cs) = lineAfterAll (lineAfter line c) cs := rfl

@[simp] theorem lineAfterAll_append (line : UInt32) (cs others : List Char) :
    lineAfterAll line (cs ++ others) = lineAfterAll (lineAfterAll line cs) others := by
  simp [lineAfterAll]

theorem lineAfterAll_of_not_mem {cs : List Char} (flat : '\n' ∉ cs) (line : UInt32) :
    lineAfterAll line cs = line := by
  induction cs generalizing line with
  | nil => rfl
  | cons c cs ih =>
    simp only [List.mem_cons, not_or] at flat
    rw [lineAfterAll_cons, lineAfter, if_neg (Ne.symm flat.1)]
    exact ih flat.2 line

theorem newline_not_mem {cs : List Char} (atomic : ∀ c ∈ cs, isAtomic c = true) : '\n' ∉ cs :=
  fun member => absurd (atomic _ member) (by decide)

/-! ## One piece at a time -/

/-- The piece that a delimiter is, if it is one. -/
def delimiterPieces (line : UInt32) (c : Char) : List LocatedPiece :=
  if c = '(' then [⟨.opening, line⟩] else if c = ')' then [⟨.closing, line⟩] else []

@[simp] theorem split_nil (line : UInt32) : split line [] = [] := by
  rw [split]

theorem split_delimiter {c : Char} (delimiter : isAtomic c = false) (line : UInt32)
    (cs : List Char) :
    split line (c :: cs) = delimiterPieces line c ++ split (lineAfter line c) cs := by
  rw [split]
  by_cases opening : c = '('
  · subst opening; rfl
  · by_cases closing : c = ')'
    · subst closing; rfl
    · have blank : Text.isBlank c = true := by simpa [isAtomic, opening, closing] using delimiter
      simp [opening, closing, blank, delimiterPieces]

theorem span_append {run others : List Char} (inside : ∀ c ∈ run, isAtomic c = true)
    (stop : ∀ c ∈ others.head?, isAtomic c = false) :
    (run ++ others).takeWhile isAtomic = run ∧ (run ++ others).dropWhile isAtomic = others := by
  rw [List.takeWhile_append_of_pos inside, List.dropWhile_append_of_pos inside]
  cases others with
  | nil => simp
  | cons c others => simp [stop c rfl]

theorem split_atom {c : Char} {run others : List Char} (first : isAtomic c = true)
    (inside : ∀ d ∈ run, isAtomic d = true) (stop : ∀ d ∈ others.head?, isAtomic d = false)
    (line : UInt32) :
    split line (c :: (run ++ others)) =
      ⟨.atom (String.ofList (c :: run)), line⟩ :: split line others := by
  have solid : c ≠ '(' ∧ c ≠ ')' ∧ Text.isBlank c = false := by
    simpa [isAtomic, and_assoc] using first
  rw [split, (span_append inside stop).1, (span_append inside stop).2]
  simp [solid]

theorem split_run {run others : List Char} (nonempty : run ≠ [])
    (inside : ∀ c ∈ run, isAtomic c = true) (stop : ∀ c ∈ others.head?, isAtomic c = false)
    (line : UInt32) :
    split line (run ++ others) = ⟨.atom (String.ofList run), line⟩ :: split line others := by
  cases run with
  | nil => exact absurd rfl nonempty
  | cons c run =>
    exact split_atom (inside c List.mem_cons_self)
      (fun d member => inside d (List.mem_cons_of_mem c member)) stop line

theorem isAtomic_head?_dropWhile (cs : List Char) :
    ∀ c ∈ (cs.dropWhile isAtomic).head?, isAtomic c = false := by
  intro c head
  have stop := List.head?_dropWhile_not isAtomic cs
  rw [Option.mem_def.1 head] at stop
  simpa using stop

/-- A text is empty, or begins with a delimiter, or with a run that ends at one. -/
@[elab_as_elim] theorem run_induction {motive : List Char → Prop} (nil : motive [])
    (delimiter : ∀ c cs, isAtomic c = false → motive cs → motive (c :: cs))
    (atom : ∀ c run others, isAtomic c = true → (∀ d ∈ run, isAtomic d = true) →
      (∀ d ∈ others.head?, isAtomic d = false) → motive others → motive (c :: (run ++ others)))
    (cs : List Char) : motive cs := by
  induction length : cs.length using Nat.strongRecOn generalizing cs with
  | ind n ih =>
    cases cs with
    | nil => exact nil
    | cons c cs =>
      cases first : isAtomic c with
      | false => exact delimiter c cs first (ih cs.length (by simp [← length]) cs rfl)
      | true =>
        rw [← List.takeWhile_append_dropWhile (p := isAtomic) (l := cs)]
        refine atom c _ _ first ?_ (isAtomic_head?_dropWhile cs) (ih _ ?_ _ rfl)
        · exact List.all_eq_true.1 List.all_takeWhile
        · have shorter := (List.dropWhile_sublist isAtomic (l := cs)).length_le
          simp only [← length, List.length_cons]
          omega

/-! ## The border between two texts -/

/-- No run of atomic characters reaches from the first text into the second one. -/
def Apart (cs rest : List Char) : Prop :=
  (∀ c ∈ cs.getLast?, isAtomic c = false) ∨ ∀ c ∈ rest.head?, isAtomic c = false

theorem Apart.of_append {cs others rest : List Char} (apart : Apart (cs ++ others) rest) :
    Apart others rest := by
  rcases apart with ends | stops
  · refine .inl fun c last => ends c ?_
    rw [List.getLast?_append, Option.mem_def.1 last]
    rfl
  · exact .inr stops

theorem Apart.head_append {run others rest : List Char} (nonempty : run ≠ [])
    (inside : ∀ c ∈ run, isAtomic c = true) (stop : ∀ c ∈ others.head?, isAtomic c = false)
    (apart : Apart (run ++ others) rest) : ∀ c ∈ (others ++ rest).head?, isAtomic c = false := by
  cases others with
  | cons c others => simpa using stop
  | nil =>
    rcases apart with ends | stops
    · have last := List.getLast?_eq_some_getLast nonempty
      rw [List.append_nil] at ends
      have atomic := inside _ (List.getLast_mem nonempty)
      rw [ends _ last] at atomic
      cases atomic
    · exact stops

/-- The pieces of two texts are those of the first, and those of the second where it begins. -/
theorem split_append {cs rest : List Char} (apart : Apart cs rest) (line : UInt32) :
    split line (cs ++ rest) = split line cs ++ split (lineAfterAll line cs) rest := by
  induction cs using run_induction generalizing line with
  | nil => simp
  | delimiter c cs delimiter ih =>
    have later : Apart cs rest := by
      rw [← List.singleton_append] at apart
      exact apart.of_append
    rw [List.cons_append, split_delimiter delimiter, split_delimiter delimiter, ih later,
      List.append_assoc]
    rfl
  | atom c run others first inside stop ih =>
    have runAtomic : ∀ d ∈ c :: run, isAtomic d = true := by simpa [first] using inside
    rw [← List.cons_append] at apart
    have stopAfter := apart.head_append (by simp) runAtomic stop
    have sameLine : lineAfterAll line (c :: (run ++ others)) = lineAfterAll line others := by
      rw [← List.cons_append, lineAfterAll_append,
        lineAfterAll_of_not_mem (newline_not_mem runAtomic)]
    rw [List.cons_append, List.append_assoc, split_atom first inside stopAfter,
      split_atom first inside stop, ih apart.of_append, sameLine]
    rfl

/-- The border between two texts falls inside a run, of which `run` belongs to the first text and
`more` to the second. -/
structure IsCut (before run more others : List Char) : Prop where
  run_nonempty : run ≠ []
  more_nonempty : more ≠ []
  run_atomic : ∀ c ∈ run, isAtomic c = true
  more_atomic : ∀ c ∈ more, isAtomic c = true
  starts : ∀ c ∈ before.getLast?, isAtomic c = false
  stops : ∀ c ∈ others.head?, isAtomic c = false

theorem apart_or_isCut (cs rest : List Char) :
    Apart cs rest ∨ ∃ before run more others, cs = before ++ run ∧ rest = more ++ others ∧
      IsCut before run more others := by
  -- The last run of the first text is the first one of its reverse.
  have whole : cs = (cs.reverse.dropWhile isAtomic).reverse ++
      (cs.reverse.takeWhile isAtomic).reverse := by
    rw [← List.reverse_append, List.takeWhile_append_dropWhile, List.reverse_reverse]
  have starts : ∀ c ∈ (cs.reverse.dropWhile isAtomic).reverse.getLast?, isAtomic c = false := by
    rw [List.getLast?_reverse]
    exact isAtomic_head?_dropWhile _
  have wholeRest := List.takeWhile_append_dropWhile (p := isAtomic) (l := rest)
  have stops := isAtomic_head?_dropWhile rest
  by_cases noRun : cs.reverse.takeWhile isAtomic = []
  · rw [noRun, List.reverse_nil, List.append_nil] at whole
    rw [← whole] at starts
    exact .inl (.inl starts)
  · by_cases noMore : rest.takeWhile isAtomic = []
    · rw [noMore, List.nil_append] at wholeRest
      rw [wholeRest] at stops
      exact .inl (.inr stops)
    · refine .inr ⟨_, _, _, _, whole, wholeRest.symm,
        by simpa using noRun, noMore, ?_, ?_, starts, stops⟩
      · intro c member
        exact List.all_eq_true.1 List.all_takeWhile c (List.mem_reverse.1 member)
      · exact List.all_eq_true.1 List.all_takeWhile

theorem IsCut.split_first {before run more others : List Char} (cut : IsCut before run more others)
    (line : UInt32) :
    split line (before ++ run) =
      split line before ++ [⟨.atom (String.ofList run), lineAfterAll line before⟩] := by
  have stop : ∀ c ∈ ([] : List Char).head?, isAtomic c = false := by simp
  have alone := split_run cut.run_nonempty cut.run_atomic stop (lineAfterAll line before)
  rw [List.append_nil, split_nil] at alone
  rw [split_append (.inl cut.starts), alone]

theorem IsCut.split_both {before run more others : List Char} (cut : IsCut before run more others)
    (line : UInt32) :
    split line (before ++ run ++ (more ++ others)) =
      split line before ++ ⟨.atom (String.ofList (run ++ more)), lineAfterAll line before⟩ ::
        split (lineAfterAll line before) others := by
  have atomic : ∀ c ∈ run ++ more, isAtomic c = true := by
    intro c member
    exact (List.mem_append.1 member).elim (cut.run_atomic c) (cut.more_atomic c)
  have together : before ++ run ++ (more ++ others) = before ++ ((run ++ more) ++ others) := by
    simp
  rw [together, split_append (.inl cut.starts),
    split_run (by simp [cut.run_nonempty]) atomic cut.stops]

/-! ## Opening parentheses -/

theorem isAtomic_of_isBlank {c : Char} (blank : Text.isBlank c = true) : isAtomic c = false := by
  simp [isAtomic, blank]

theorem delimiter_cases {c : Char} (delimiter : isAtomic c = false) :
    c = '(' ∨ c = ')' ∨ Text.isBlank c = true := by
  by_cases opening : c = '('
  · exact .inl opening
  · by_cases closing : c = ')'
    · exact .inr (.inl closing)
    · exact .inr (.inr (by simpa [isAtomic, opening, closing] using delimiter))

theorem delimiterPieces_of_isBlank {c : Char} (blank : Text.isBlank c = true) (line : UInt32) :
    delimiterPieces line c = [] := by
  unfold delimiterPieces
  split
  next opening =>
    subst opening
    exact absurd blank (by decide)
  next =>
    split
    next closing =>
      subst closing
      exact absurd blank (by decide)
    next => rfl

theorem split_eq_nil_iff {line : UInt32} {cs : List Char} :
    split line cs = [] ↔ ∀ c ∈ cs, Text.isBlank c = true := by
  induction cs using run_induction generalizing line with
  | nil => simp
  | delimiter c cs delimiter ih =>
    rw [split_delimiter delimiter, List.append_eq_nil_iff, ih, List.forall_mem_cons]
    refine and_congr_left fun _ =>
      ⟨fun none => ?_, fun blank => delimiterPieces_of_isBlank blank line⟩
    rcases delimiter_cases delimiter with rfl | rfl | blank
    · cases none
    · cases none
    · exact blank
  | atom c run others first inside stop ih =>
    rw [split_atom first inside stop, List.forall_mem_cons]
    have notBlank : Text.isBlank c = false := by
      simp only [isAtomic, Bool.and_eq_true, Bool.not_eq_true'] at first
      exact first.2
    simp [notBlank]

/-- If the last piece is an opening parenthesis, only blank characters come after it. -/
theorem exists_of_split_eq_append_opening {line opens : UInt32} {cs : List Char}
    {pieces : List LocatedPiece} (ends : split line cs = pieces ++ [⟨.opening, opens⟩]) :
    ∃ before blanks, cs = before ++ '(' :: blanks ∧ split line before = pieces ∧
      ∀ c ∈ blanks, Text.isBlank c = true := by
  induction cs using run_induction generalizing line pieces with
  | nil => simp at ends
  | delimiter c cs delimiter ih =>
    rw [split_delimiter delimiter] at ends
    rcases List.eq_nil_or_concat (split (lineAfter line c) cs) with none | ⟨later, last, some⟩
    · rw [none, List.append_nil] at ends
      unfold delimiterPieces at ends
      split at ends
      next opening =>
        obtain rfl : pieces = [] := by
          simpa using congrArg List.length ends
        exact ⟨[], cs, by rw [opening]; rfl, split_nil line, split_eq_nil_iff.1 none⟩
      next => split at ends <;> simp [List.singleton_eq_append_iff] at ends
    · rw [List.concat_eq_append] at some
      rw [some, ← List.append_assoc] at ends
      obtain ⟨rfl, same⟩ := List.append_inj' ends rfl
      rw [same] at some
      obtain ⟨before, blanks, rfl, rfl, blank⟩ := ih some
      exact ⟨c :: before, blanks, rfl, split_delimiter delimiter line before, blank⟩
  | atom c run others first inside stop ih =>
    rw [split_atom first inside stop] at ends
    cases pieces with
    | nil => simp at ends
    | cons piece pieces =>
      rw [List.cons_append, List.cons.injEq] at ends
      obtain ⟨rfl, ends⟩ := ends
      obtain ⟨before, blanks, rfl, rfl, blank⟩ := ih ends
      refine ⟨c :: (run ++ before), blanks, by simp, ?_, blank⟩
      refine split_atom first inside (fun d head => stop d ?_) line
      rw [List.head?_append, Option.mem_def.1 head]
      rfl

/-! ## Atoms -/

theorem split_of_isAtomText {text : String} (atom : IsAtomText text) (line : UInt32) :
    split line text.toList = [⟨.atom text, line⟩] := by
  have nonempty : text.toList ≠ [] := fun empty => atom.1 (String.toList_eq_nil_iff.1 empty)
  have stop : ∀ c ∈ ([] : List Char).head?, isAtomic c = false := by simp
  have whole := split_run nonempty atom.2 stop line
  rwa [List.append_nil, split_nil, String.ofList_toList] at whole

/-- Every atom of a text is one that could be written by itself. -/
theorem isAtomText_of_mem_split {line atomLine : UInt32} {cs : List Char} {text : String}
    (member : ⟨.atom text, atomLine⟩ ∈ split line cs) : IsAtomText text := by
  induction cs using run_induction generalizing line with
  | nil => simp at member
  | delimiter c cs delimiter ih =>
    rw [split_delimiter delimiter, List.mem_append] at member
    rcases member with here | later
    · unfold delimiterPieces at here
      split at here
      · simp at here
      · split at here <;> simp at here
    · exact ih later
  | atom c run others first inside stop ih =>
    rw [split_atom first inside stop, List.mem_cons] at member
    rcases member with here | later
    · simp only [LocatedPiece.mk.injEq, Piece.atom.injEq] at here
      rw [here.1]
      exact ⟨by simp [← String.toList_inj], by simpa [first] using inside⟩
    · exact ih later

end LoxForms.Piece
