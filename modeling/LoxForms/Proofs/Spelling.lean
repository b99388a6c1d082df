import Mathlib.Computability.RegularExpressions
import LoxForms.Number.Exact

/-! # The language of floats

Texts of floats are a regular language, and `parse?` accepts exactly its words (`isSome_parse?_iff`).
Those that look like numbers are the numerals.  They are a regular language as well
(`mem_numeral_iff`), and they are what numbers are read from (`isSome_read?_iff`).
-/

namespace LoxForms

namespace Spelling

open RegularExpression
open Decimal (splitSign splitDigits splitFraction wholeNumber? exponent? ofUnsigned?)
open Number (ofWord? parse? looksNumeric)

/-! ## The language of floats -/

def oneOf (cs : List Char) : RegularExpression Char :=
  cs.foldr (fun c others => char c + others) 0

def optional (r : RegularExpression Char) : RegularExpression Char := 1 + r

/-- Once or more often. -/
def repeated (r : RegularExpression Char) : RegularExpression Char := r * star r

/-- A word, given in small letters, in letters of any case. -/
def anyCase (word : List Char) : RegularExpression Char :=
  word.foldr (fun c others => oneOf [c, c.toUpper] * others) 1

def digit : RegularExpression Char := oneOf "0123456789".toList

def sign : RegularExpression Char := oneOf ['+', '-']

/-- `[eE][+-]?[0-9]+` -/
def exponent : RegularExpression Char := oneOf ['e', 'E'] * (optional sign * repeated digit)

/-- `([0-9]+|[0-9]+\.[0-9]*|[0-9]*\.[0-9]+)([eE][+-]?[0-9]+)?` -/
def unsigned : RegularExpression Char :=
  (repeated digit + repeated digit * (char '.' * star digit) +
    star digit * (char '.' * repeated digit)) * optional exponent

/-- What is not finite. -/
def special : RegularExpression Char :=
  anyCase "inf".toList + anyCase "infinity".toList + anyCase "nan".toList

/-- The texts of floats. -/
def float : RegularExpression Char := optional sign * (special + unsigned)

/-- `[0-9]+(\.[0-9]*)?([eE][+-]?[0-9]+)?` -/
def unsignedNumeral : RegularExpression Char :=
  repeated digit * optional (char '.' * star digit) * optional exponent

/-- `-?[0-9]+(\.[0-9]*)?([eE][+-]?[0-9]+)?` -/
def numeral : RegularExpression Char := optional (char '-') * unsignedNumeral

/-! ## Words of simple expressions -/

variable {word : List Char}

theorem mem_oneOf {cs : List Char} : word ∈ (oneOf cs).matches' ↔ ∃ c ∈ cs, word = [c] := by
  induction cs with
  | nil => simp [oneOf, Language.notMem_zero]
  | cons c others ih =>
    have step : (oneOf (c :: others)).matches' = {[c]} + (oneOf others).matches' := by
      rw [oneOf, List.foldr_cons, matches'_add, matches'_char, oneOf]
    rw [step, Language.mem_add, ih, List.exists_mem_cons_iff]
    rfl

theorem mem_optional {r : RegularExpression Char} :
    word ∈ (optional r).matches' ↔ word = [] ∨ word ∈ r.matches' := by
  rw [optional, matches'_add, matches'_epsilon, Language.mem_add, Language.mem_one]

theorem mem_mul {r s : RegularExpression Char} :
    word ∈ (r * s).matches' ↔
      ∃ before ∈ r.matches', ∃ after ∈ s.matches', before ++ after = word := by
  rw [matches'_mul, Language.mem_mul]

theorem mem_char_mul {c : Char} {r : RegularExpression Char} :
    word ∈ (char c * r).matches' ↔ ∃ after ∈ r.matches', c :: after = word := by
  rw [mem_mul, matches'_char]
  constructor
  · rintro ⟨_, rfl, after, member, rfl⟩
    exact ⟨after, member, rfl⟩
  · rintro ⟨after, member, rfl⟩
    exact ⟨[c], rfl, after, member, rfl⟩

theorem mem_digits_iff {c : Char} : c ∈ "0123456789".toList ↔ c.isDigit = true := by
  constructor
  · intro member
    exact List.all_eq_true.1 (rfl : "0123456789".toList.all Char.isDigit = true) c member
  · intro isDigit
    obtain ⟨low, high⟩ := Char.isDigit_iff_toNat.1 isDigit
    rw [← Char.ofNat_toNat c]
    generalize c.toNat = code at low high
    change 48 ≤ code at low
    change code ≤ 57 at high
    interval_cases code <;> decide

theorem mem_digit : word ∈ digit.matches' ↔ ∃ c, c.isDigit = true ∧ word = [c] := by
  rw [digit, mem_oneOf]
  simp only [mem_digits_iff]

theorem mem_star_digit : word ∈ (star digit).matches' ↔ ∀ c ∈ word, c.isDigit = true := by
  rw [matches'_star, Language.mem_kstar]
  constructor
  · rintro ⟨words, rfl, digits⟩ c member
    obtain ⟨part, isPart, inside⟩ := List.mem_flatten.1 member
    obtain ⟨other, isDigit, rfl⟩ := mem_digit.1 (digits part isPart)
    rwa [List.mem_singleton.1 inside]
  · intro allDigits
    refine ⟨word.map fun c => [c], ?_, fun part isPart => ?_⟩
    · rw [← List.flatMap_def, List.flatMap_singleton']
    obtain ⟨c, member, rfl⟩ := List.mem_map.1 isPart
    exact mem_digit.2 ⟨c, allDigits c member, rfl⟩

theorem mem_repeated_digit :
    word ∈ (repeated digit).matches' ↔ word ≠ [] ∧ ∀ c ∈ word, c.isDigit = true := by
  rw [repeated, mem_mul]
  constructor
  · rintro ⟨_, first, others, rest, rfl⟩
    obtain ⟨c, isDigit, rfl⟩ := mem_digit.1 first
    exact ⟨List.cons_ne_nil c others, List.forall_mem_cons.2 ⟨isDigit, mem_star_digit.1 rest⟩⟩
  · rintro ⟨nonempty, allDigits⟩
    obtain ⟨c, others, rfl⟩ := List.exists_cons_of_ne_nil nonempty
    rw [List.forall_mem_cons] at allDigits
    exact ⟨[c], mem_digit.2 ⟨c, allDigits.1, rfl⟩, others, mem_star_digit.2 allDigits.2, rfl⟩

theorem mem_sign : word ∈ sign.matches' ↔ word = ['+'] ∨ word = ['-'] := by
  simp [sign, mem_oneOf]

/-- A text that may begin with a sign belongs to a language if what follows the sign does, as long as
no word of the language itself begins with one. -/
theorem mem_optional_sign_mul {r : RegularExpression Char}
    (noSign : ∀ rest ∈ r.matches', (splitSign rest).2 = rest) :
    word ∈ (optional sign * r).matches' ↔ (splitSign word).2 ∈ r.matches' := by
  rw [mem_mul]
  constructor
  · rintro ⟨before, signed, rest, member, rfl⟩
    rw [mem_optional, mem_sign] at signed
    rcases signed with rfl | rfl | rfl
    · rwa [List.nil_append, noSign rest member]
    · exact member
    · exact member
  · intro member
    unfold splitSign at member
    split at member
    next rest => exact ⟨['-'], mem_optional.2 (.inr (mem_sign.2 (.inr rfl))), rest, member, rfl⟩
    next rest => exact ⟨['+'], mem_optional.2 (.inr (mem_sign.2 (.inl rfl))), rest, member, rfl⟩
    next => exact ⟨[], mem_optional.2 (.inl rfl), word, member, rfl⟩

/-! ## Exponents -/

theorem isSome_wholeNumber?_iff {digits : List Char} :
    (wholeNumber? digits).isSome = true ↔ digits ∈ (repeated digit).matches' := by
  rw [mem_repeated_digit, wholeNumber?]
  split
  next run => simpa using run
  next other => simpa using other

theorem splitSign_of_mem_repeated_digit {digits : List Char}
    (member : digits ∈ (repeated digit).matches') : (splitSign digits).2 = digits := by
  obtain ⟨nonempty, allDigits⟩ := mem_repeated_digit.1 member
  have head : (digits ++ []).head?.any Char.isDigit = true :=
    Decimal.head?_append_of_isDigit nonempty allDigits
  rw [List.append_nil] at head
  exact congrArg Prod.snd (Number.splitSign_of_isDigit head false)

theorem isSome_exponent?_iff :
    (exponent? word).isSome = true ↔ word ∈ (optional exponent).matches' := by
  rw [mem_optional, exponent, mem_mul]
  cases word with
  | nil => simp [exponent?]
  | cons mark cs =>
    have marks : (exponent? (mark :: cs)).isSome = true ↔
        (mark = 'e' ∨ mark = 'E') ∧ (splitSign cs).2 ∈ (repeated digit).matches' := by
      rw [← isSome_wholeNumber?_iff, exponent?]
      split
      next isMark => rw [Option.isSome_map, and_iff_right isMark]
      next noMark => simp [noMark]
    rw [marks, ← mem_optional_sign_mul fun _ => splitSign_of_mem_repeated_digit]
    simp only [mem_oneOf]
    constructor
    · rintro ⟨isMark, ends⟩
      exact .inr ⟨[mark], ⟨mark, by simpa using isMark, rfl⟩, cs, ends, rfl⟩
    · rintro (empty | ⟨_, ⟨other, isMark, rfl⟩, rest, ends, same⟩)
      · cases empty
      · cases same
        exact ⟨by simpa using isMark, ends⟩

/-! ## Numbers without a sign -/

/-- The text has these digits before its point and after it, if it has one, and then the rest. -/
inductive Splits : List Char → List Char → List Char → List Char → Prop where
  | whole (digits rest : List Char) : Splits (digits ++ rest) digits [] rest
  | point (whole fraction rest : List Char) :
      Splits (whole ++ '.' :: (fraction ++ rest)) whole fraction rest

/-- The text is that of a number whose digits meet the condition. -/
def IsNumber (condition : List Char → List Char → Prop) (word : List Char) : Prop :=
  ∃ whole fraction rest, Splits word whole fraction rest ∧ (∀ c ∈ whole, c.isDigit = true) ∧
    (∀ c ∈ fraction, c.isDigit = true) ∧ condition whole fraction ∧
    rest ∈ (optional exponent).matches'

/-- Some digit stands next to the point, or where it could. -/
abbrev IsUnsigned : List Char → Prop := IsNumber fun whole fraction => whole ≠ [] ∨ fraction ≠ []

/-- Runs of digits are as long as they can be, and every text splits at the ends of two of them. -/
theorem exists_splits (word : List Char) :
    ∃ whole after fraction rest, splitDigits word = (whole, after) ∧
      splitFraction after = (fraction, rest) ∧ Splits word whole fraction rest ∧
      (∀ c ∈ whole, c.isDigit = true) ∧ ∀ c ∈ fraction, c.isDigit = true := by
  have runs := List.takeWhile_append_dropWhile (p := Char.isDigit) (l := word)
  have allWhole : ∀ c ∈ word.takeWhile Char.isDigit, c.isDigit = true :=
    fun _ => List.mem_takeWhile_imp
  rcases behind : splitFraction (word.dropWhile Char.isDigit) with ⟨fraction, rest⟩
  refine ⟨_, _, fraction, rest, rfl, behind, ?_⟩
  generalize word.takeWhile Char.isDigit = whole, word.dropWhile Char.isDigit = after at *
  obtain rfl := runs
  unfold splitFraction at behind
  split at behind
  next cs =>
    obtain ⟨rfl, rfl⟩ := Prod.mk.inj behind
    refine ⟨?_, allWhole, fun _ => List.mem_takeWhile_imp⟩
    have point := Splits.point whole (cs.takeWhile Char.isDigit) (cs.dropWhile Char.isDigit)
    rwa [List.takeWhile_append_dropWhile] at point
  next =>
    obtain ⟨rfl, rfl⟩ := Prod.mk.inj behind
    exact ⟨.whole whole after, allWhole, by simp⟩

theorem isSome_ofUnsigned?_iff (negative : Bool) :
    (ofUnsigned? negative word).isSome = true ↔ IsUnsigned word := by
  constructor
  · intro written
    obtain ⟨whole, after, fraction, rest, runs, afterPoint, splits, allWhole, allFraction⟩ :=
      exists_splits word
    simp only [ofUnsigned?, runs, afterPoint] at written
    split at written
    next => cases written
    next some =>
      rw [Option.isSome_map, isSome_exponent?_iff] at written
      refine ⟨whole, fraction, rest, splits, allWhole, allFraction, ?_, written⟩
      simpa [← not_and_or] using some
  · rintro ⟨whole, fraction, rest, splits, allWhole, allFraction, nonempty, ends⟩
    obtain ⟨exponent, ends⟩ := Option.isSome_iff_exists.1 (isSome_exponent?_iff.2 ends)
    cases splits with
    | whole whole rest =>
      have some : whole ≠ [] := nonempty.resolve_right (by simp)
      rw [Decimal.ofUnsigned?_whole some allWhole ends]
      rfl
    | point whole fraction rest =>
      rw [Decimal.ofUnsigned?_point nonempty allWhole allFraction ends]
      rfl

theorem mem_unsigned : word ∈ unsigned.matches' ↔ IsUnsigned word := by
  rw [unsigned, mem_mul]
  simp only [matches'_add, Language.mem_add]
  constructor
  · rintro ⟨_, (run | point) | point, rest, ends, rfl⟩
    · obtain ⟨nonempty, allDigits⟩ := mem_repeated_digit.1 run
      exact ⟨_, [], rest, .whole _ rest, allDigits, by simp, .inl nonempty, ends⟩
    · obtain ⟨whole, run, _, behind, rfl⟩ := mem_mul.1 point
      obtain ⟨fraction, others, rfl⟩ := mem_char_mul.1 behind
      obtain ⟨nonempty, allDigits⟩ := mem_repeated_digit.1 run
      rw [List.append_assoc]
      exact ⟨whole, fraction, rest, .point whole fraction rest, allDigits, mem_star_digit.1 others,
        .inl nonempty, ends⟩
    · obtain ⟨whole, run, _, behind, rfl⟩ := mem_mul.1 point
      obtain ⟨fraction, others, rfl⟩ := mem_char_mul.1 behind
      obtain ⟨nonempty, allDigits⟩ := mem_repeated_digit.1 others
      rw [List.append_assoc]
      exact ⟨whole, fraction, rest, .point whole fraction rest, mem_star_digit.1 run, allDigits,
        .inr nonempty, ends⟩
  · rintro ⟨whole, fraction, rest, splits, allWhole, allFraction, nonempty, ends⟩
    cases splits with
    | whole whole rest =>
      have some : whole ≠ [] := nonempty.resolve_right (by simp)
      exact ⟨whole, .inl (.inl (mem_repeated_digit.2 ⟨some, allWhole⟩)), rest, ends, rfl⟩
    | point whole fraction rest =>
      refine ⟨whole ++ '.' :: fraction, ?_, rest, ends, by simp⟩
      rcases nonempty with some | some
      · refine .inl (.inr (mem_mul.2 ⟨whole, mem_repeated_digit.2 ⟨some, allWhole⟩, _, ?_, rfl⟩))
        exact mem_char_mul.2 ⟨fraction, mem_star_digit.2 allFraction, rfl⟩
      · refine .inr (mem_mul.2 ⟨whole, mem_star_digit.2 allWhole, _, ?_, rfl⟩)
        exact mem_char_mul.2 ⟨fraction, mem_repeated_digit.2 ⟨some, allFraction⟩, rfl⟩

theorem mem_unsignedNumeral :
    word ∈ unsignedNumeral.matches' ↔ IsNumber (fun whole _ => whole ≠ []) word := by
  rw [unsignedNumeral, mem_mul]
  constructor
  · rintro ⟨_, number, rest, ends, rfl⟩
    obtain ⟨whole, run, behind, point, rfl⟩ := mem_mul.1 number
    obtain ⟨nonempty, allDigits⟩ := mem_repeated_digit.1 run
    rcases mem_optional.1 point with rfl | point
    · rw [List.append_nil]
      exact ⟨whole, [], rest, .whole whole rest, allDigits, by simp, nonempty, ends⟩
    · obtain ⟨fraction, others, rfl⟩ := mem_char_mul.1 point
      rw [List.append_assoc]
      exact ⟨whole, fraction, rest, .point whole fraction rest, allDigits, mem_star_digit.1 others,
        nonempty, ends⟩
  · rintro ⟨whole, fraction, rest, splits, allWhole, allFraction, nonempty, ends⟩
    have run := mem_repeated_digit.2 ⟨nonempty, allWhole⟩
    cases splits with
    | whole whole rest =>
      exact ⟨whole, mem_mul.2 ⟨whole, run, [], mem_optional.2 (.inl rfl), List.append_nil whole⟩,
        rest, ends, rfl⟩
    | point whole fraction rest =>
      have point : '.' :: fraction ∈ (char '.' * star digit).matches' :=
        mem_char_mul.2 ⟨fraction, mem_star_digit.2 allFraction, rfl⟩
      exact ⟨whole ++ '.' :: fraction,
        mem_mul.2 ⟨whole, run, '.' :: fraction, mem_optional.2 (.inr point), rfl⟩, rest, ends,
        by simp⟩

/-- A number begins with a digit exactly if there is one before its point. -/
theorem Splits.head?_isDigit_iff {whole fraction rest : List Char}
    (splits : Splits word whole fraction rest) (allWhole : ∀ c ∈ whole, c.isDigit = true)
    (ends : rest ∈ (optional exponent).matches') :
    word.head?.any Char.isDigit = true ↔ whole ≠ [] := by
  refine ⟨fun head empty => ?_, fun nonempty => ?_⟩
  · obtain ⟨exponent, ends⟩ := Option.isSome_iff_exists.1 (isSome_exponent?_iff.2 ends)
    have noDigit := Decimal.head?_of_exponent? ends
    cases splits with
    | whole _ _ =>
      rw [empty, List.nil_append] at head
      cases rest with
      | nil => cases head
      | cons c others => simp_all
    | point _ _ _ =>
      rw [empty] at head
      cases head
  · cases splits with
    | whole _ _ => exact Decimal.head?_append_of_isDigit nonempty allWhole
    | point _ _ _ => exact Decimal.head?_append_of_isDigit nonempty allWhole

theorem mem_unsignedNumeral_iff :
    word ∈ unsignedNumeral.matches' ↔
      word.head?.any Char.isDigit = true ∧ word ∈ unsigned.matches' := by
  rw [mem_unsignedNumeral, mem_unsigned]
  constructor
  · rintro ⟨whole, fraction, rest, splits, allWhole, allFraction, nonempty, ends⟩
    exact ⟨(splits.head?_isDigit_iff allWhole ends).2 nonempty,
      whole, fraction, rest, splits, allWhole, allFraction, .inl nonempty, ends⟩
  · rintro ⟨head, whole, fraction, rest, splits, allWhole, allFraction, -, ends⟩
    exact ⟨whole, fraction, rest, splits, allWhole, allFraction,
      (splits.head?_isDigit_iff allWhole ends).1 head, ends⟩

theorem splitSign_of_mem_unsigned (member : word ∈ unsigned.matches') :
    (splitSign word).2 = word := by
  obtain ⟨whole, fraction, rest, splits, allWhole, -, nonempty, ends⟩ := mem_unsigned.1 member
  by_cases empty : whole = []
  · cases splits with
    | whole _ _ => exact absurd empty (nonempty.resolve_right (by simp))
    | point _ _ _ =>
      rw [empty]
      rfl
  · have head := (splits.head?_isDigit_iff allWhole ends).2 empty
    exact congrArg Prod.snd (Number.splitSign_of_isDigit head false)

/-! ## Words for what is not finite -/

theorem toLower_eq_iff {letter c : Char} (small : letter.isLower = true) :
    c.toLower = letter ↔ c = letter ∨ c = letter.toUpper := by
  constructor
  · rintro rfl
    by_cases capital : c.isUpper = true
    · right
      rw [Char.toUpper_toLower_eq_toUpper,
        Char.toUpper_eq_of_not_isLower (Char.not_isLower_of_isUpper capital)]
    · exact .inl (Char.toLower_eq_of_not_isUpper capital).symm
  · have self : letter.toLower = letter :=
      Char.toLower_eq_of_not_isUpper (Char.not_isUpper_of_isLower small)
    rintro (rfl | rfl)
    · exact self
    · rw [Char.toLower_toUpper_eq_toLower, self]

theorem mem_anyCase {letters : List Char} (small : letters.all Char.isLower = true) :
    word ∈ (anyCase letters).matches' ↔ word.map Char.toLower = letters := by
  induction letters generalizing word with
  | nil => rw [List.map_eq_nil_iff]; rfl
  | cons letter others ih =>
    rw [List.all_cons, Bool.and_eq_true] at small
    have step : anyCase (letter :: others) =
      oneOf [letter, letter.toUpper] * anyCase others := rfl
    rw [step, mem_mul]
    constructor
    · rintro ⟨_, first, rest, member, rfl⟩
      obtain ⟨c, isLetter, rfl⟩ := mem_oneOf.1 first
      rw [List.singleton_append, List.map_cons, (ih small.2).1 member,
        (toLower_eq_iff small.1).2 (by simpa using isLetter)]
    · intro same
      cases word with
      | nil => cases same
      | cons c rest =>
        obtain ⟨first, others⟩ := List.cons.inj same
        exact ⟨[c], mem_oneOf.2 ⟨c, by simpa using (toLower_eq_iff small.1).1 first, rfl⟩, rest,
          (ih small.2).2 others, rfl⟩

theorem mem_special :
    word ∈ special.matches' ↔ word.map Char.toLower = "inf".toList ∨
      word.map Char.toLower = "infinity".toList ∨ word.map Char.toLower = "nan".toList := by
  rw [special, matches'_add, matches'_add, Language.mem_add, Language.mem_add, mem_anyCase rfl,
    mem_anyCase rfl, mem_anyCase rfl, or_assoc]

theorem splitSign_of_mem_special (member : word ∈ special.matches') : (splitSign word).2 = word := by
  rw [mem_special] at member
  unfold splitSign
  split
  next => simp at member
  next => simp at member
  next => rfl

theorem isSome_ofWord?_iff (negative : Bool) :
    (ofWord? negative word).isSome = true ↔ word ∈ special.matches' := by
  rw [mem_special, ← or_assoc, ofWord?]
  split
  next infinite => exact iff_of_true rfl (.inl infinite)
  next finite =>
    split
    next nan => exact iff_of_true rfl (.inr nan)
    next number => exact iff_of_false Bool.false_ne_true (not_or.2 ⟨finite, number⟩)

theorem not_mem_special_of_isDigit (head : word.head?.any Char.isDigit = true) :
    word ∉ special.matches' := by
  rw [← isSome_ofWord?_iff false, Number.ofWord?_of_isDigit head]
  exact Bool.false_ne_true

/-! ## Floats and numerals -/

theorem mem_float :
    word ∈ float.matches' ↔
      (splitSign word).2 ∈ special.matches' ∨ (splitSign word).2 ∈ unsigned.matches' := by
  rw [float, mem_optional_sign_mul, matches'_add, Language.mem_add]
  intro rest member
  rw [matches'_add, Language.mem_add] at member
  exact member.elim splitSign_of_mem_special splitSign_of_mem_unsigned

/-- The texts from which floats are parsed are a regular language. -/
theorem isSome_parse?_iff {text : String} :
    (parse? text).isSome = true ↔ text.toList ∈ float.matches' := by
  rw [mem_float, mem_unsigned, ← isSome_ofWord?_iff (splitSign text.toList).1,
    ← isSome_ofUnsigned?_iff (splitSign text.toList).1, parse?]
  dsimp only
  split
  next x word => simp [word]
  next none => simp [none]

/-- Numerals are the texts of floats that look like numbers. -/
theorem mem_numeral_iff {text : String} :
    text.toList ∈ numeral.matches' ↔
      looksNumeric text = true ∧ text.toList ∈ float.matches' := by
  rw [Number.looksNumeric_iff, numeral, mem_mul]
  constructor
  · rintro ⟨before, minus, cs, member, same⟩
    obtain ⟨head, written⟩ := mem_unsignedNumeral_iff.1 member
    obtain ⟨negative, signed⟩ : ∃ negative : Bool,
        before ++ cs = if negative then '-' :: cs else cs := by
      rcases mem_optional.1 minus with rfl | minus
      · exact ⟨false, rfl⟩
      · obtain rfl : before = ['-'] := minus
        exact ⟨true, rfl⟩
    refine ⟨⟨negative, cs, head, ?_⟩, ?_⟩
    · rw [← signed, same, String.ofList_toList]
    · rw [mem_float, ← same, signed, Number.splitSign_of_isDigit head]
      exact .inr written
  · -- Of the texts of floats that look like numbers none has a plus, a point in front, or a word.
    rintro ⟨⟨negative, cs, head, rfl⟩, member⟩
    rw [String.toList_ofList] at member ⊢
    rw [mem_float, Number.splitSign_of_isDigit head] at member
    have written :=
      mem_unsignedNumeral_iff.2 ⟨head, member.resolve_left (not_mem_special_of_isDigit head)⟩
    cases negative with
    | true => exact ⟨['-'], mem_optional.2 (.inr rfl), cs, written, rfl⟩
    | false => exact ⟨[], mem_optional.2 (.inl rfl), cs, written, rfl⟩

theorem isSome_read?_iff {text : String} :
    (Number.read? text).isSome = true ↔ text.toList ∈ numeral.matches' := by
  rw [mem_numeral_iff, ← isSome_parse?_iff, Number.read?]
  split
  next numeric => simp [numeric]
  next other => simp [other]

/-! ## Numerals in characters -/

theorem head?_of_mem_numeral {text : String} (member : text.toList ∈ numeral.matches') :
    ∃ c, text.toList.head? = some c ∧ (c = '-' ∨ c.isDigit = true) := by
  obtain ⟨negative, cs, head, rfl⟩ := Number.looksNumeric_iff.1 (mem_numeral_iff.1 member).1
  rw [String.toList_ofList]
  cases negative with
  | true => exact ⟨'-', rfl, .inl rfl⟩
  | false =>
    cases cs with
    | nil => cases head
    | cons c others => exact ⟨c, rfl, .inr head⟩

/-- No numeral is a word for what is not finite, with a sign or without. -/
theorem not_mem_special_of_mem_numeral {text : String}
    (member : text.toList ∈ numeral.matches') :
    text.toList ∉ (optional sign * special).matches' := by
  obtain ⟨negative, cs, head, rfl⟩ := Number.looksNumeric_iff.1 (mem_numeral_iff.1 member).1
  rw [mem_optional_sign_mul fun _ => splitSign_of_mem_special, String.toList_ofList,
    Number.splitSign_of_isDigit head]
  exact not_mem_special_of_isDigit head

/-- All characters in the expression meet the condition. -/
def consistsOf (p : Char → Bool) : RegularExpression Char → Bool
  | .zero | .epsilon => true
  | .char c => p c
  | .plus r s | .comp r s => consistsOf p r && consistsOf p s
  | .star r => consistsOf p r

theorem forall_mem_of_consistsOf {p : Char → Bool} {r : RegularExpression Char}
    (allowed : consistsOf p r = true) (member : word ∈ r.matches') : ∀ c ∈ word, p c = true := by
  induction r generalizing word with
  | zero => exact absurd member (Language.notMem_zero word)
  | epsilon =>
    obtain rfl : word = [] := member
    simp
  | char a =>
    obtain rfl : word = [a] := member
    simpa [consistsOf] using allowed
  | plus r s rHypothesis sHypothesis =>
    rw [consistsOf, Bool.and_eq_true] at allowed
    rcases member with member | member
    · exact rHypothesis allowed.1 member
    · exact sHypothesis allowed.2 member
  | comp r s rHypothesis sHypothesis =>
    rw [consistsOf, Bool.and_eq_true] at allowed
    obtain ⟨before, first, after, second, rfl⟩ := mem_mul.1 member
    exact List.forall_mem_append.2 ⟨rHypothesis allowed.1 first, sHypothesis allowed.2 second⟩
  | star r ih =>
    obtain ⟨words, rfl, each⟩ := Language.mem_kstar.1 member
    intro c inside
    obtain ⟨part, isPart, inPart⟩ := List.mem_flatten.1 inside
    exact ih allowed (each part isPart) c inPart

theorem toNat_lt_of_mem_numeral (member : word ∈ numeral.matches') {c : Char} (inside : c ∈ word) :
    c.toNat < 128 := by
  have ascii : consistsOf (fun c => decide (c.toNat < 128)) numeral = true := by decide
  exact of_decide_eq_true (forall_mem_of_consistsOf ascii member c inside)

end Spelling

end LoxForms
