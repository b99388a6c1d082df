import LoxForms.Number.Exact
import LoxForms.Proofs.Binary64.Classes
import LoxForms.Proofs.Reading.Grammar
import LoxForms.Proofs.Splitting

/-! # Texts of values as atoms

The text of a number, of an operator, or of a name is an atom.  A value that an atom stands for is
written as an atom again, and this one stands for the same value, except that an infinity is written
as a word and comes back as that word (`asRead_of_isReadable`).
-/

namespace LoxForms

open Piece

/-! ## Atomic characters -/

/-- The visible ASCII characters that come after the parentheses are atomic. -/
theorem isAtomic_of_code {c : Char} (low : 0x29 < c.toNat) (high : c.toNat < 0x7f) :
    isAtomic c = true := by
  have visible : Text.isBlank c = false := by
    simp [Text.isBlank, Text.within, Text.blankRanges]
    omega
  have notOpening : c ≠ '(' := by rintro rfl; exact absurd low (by decide)
  have notClosing : c ≠ ')' := by rintro rfl; exact absurd low (by decide)
  simp [isAtomic, notOpening, notClosing, visible]

theorem isAtomic_of_isDigit {c : Char} (digit : c.isDigit = true) : isAtomic c = true := by
  obtain ⟨low, high⟩ := Char.isDigit_iff_toNat.1 digit
  change 48 ≤ c.toNat at low
  change c.toNat ≤ 57 at high
  exact isAtomic_of_code (by omega) (by omega)

theorem isAtomic_of_isAlpha {c : Char} (letter : c.isAlpha = true) : isAtomic c = true := by
  simp only [Char.isAlpha, Char.isUpper, Char.isLower, Bool.or_eq_true, Bool.and_eq_true,
    decide_eq_true_eq, ge_iff_le, UInt32.le_iff_toNat_le] at letter
  rcases letter with upper | lower
  · have low : 65 ≤ c.toNat := upper.1
    have high : c.toNat ≤ 90 := upper.2
    exact isAtomic_of_code (by omega) (by omega)
  · have low : 97 ≤ c.toNat := lower.1
    have high : c.toNat ≤ 122 := lower.2
    exact isAtomic_of_code (by omega) (by omega)

/-! ## Names and operators -/

theorem isAtomic_of_isNamePart {c : Char} (part : Atom.isNamePart c = true) :
    isAtomic c = true := by
  simp only [Atom.isNamePart, Char.isAlphanum, Bool.or_eq_true, beq_iff_eq] at part
  rcases part with (letter | digit) | rfl
  · exact isAtomic_of_isAlpha letter
  · exact isAtomic_of_isDigit digit
  · decide

theorem isNamePart_of_isNameStart {c : Char} (start : Atom.isNameStart c = true) :
    Atom.isNamePart c = true := by
  simp only [Atom.isNameStart, Atom.isNamePart, Char.isAlphanum, Bool.or_eq_true] at start ⊢
  exact start.imp_left .inl

theorem isAtomText_of_isIdentifier {text : String} (named : Atom.isIdentifier text = true) :
    IsAtomText text := by
  unfold Atom.isIdentifier at named
  cases chars : text.toList with
  | nil => simp [chars] at named
  | cons first others =>
    simp only [chars, Bool.and_eq_true, List.all_eq_true] at named
    refine ⟨fun empty => by simp [empty] at chars, fun c member => ?_⟩
    rw [chars, List.mem_cons] at member
    rcases member with rfl | later
    · exact isAtomic_of_isNamePart (isNamePart_of_isNameStart named.1)
    · exact isAtomic_of_isNamePart (named.2 c later)

theorem Reading.UnaryOperator.isAtomText {head : String} {kind : TokenKind}
    (operator : UnaryOperator head kind) : IsAtomText head := by
  cases operator <;> decide

theorem Reading.BinaryOperator.isAtomText {head : String} {kind : TokenKind}
    (operator : BinaryOperator head kind) : IsAtomText head := by
  cases operator <;> decide

/-! ## Numbers -/

theorem isAtomic_of_mem_plain {d : Decimal} {c : Char} (member : c ∈ Number.plain.write d) :
    isAtomic c = true := by
  have body : ∀ c ∈ Decimal.full [] (Nat.toDigits 10 d.digits) d.exponent,
      isAtomic c = true := by
    intro c member
    by_cases nonneg : 0 ≤ d.exponent
    · obtain ⟨whole, written, _, allDigits, _⟩ := Decimal.full_of_nonneg nonneg d.digits
      rw [written] at member
      exact isAtomic_of_isDigit (allDigits c member)
    · obtain ⟨whole, fraction, written, _, allWhole, allFraction, _⟩ :=
        Decimal.full_of_neg nonneg d.digits
      rw [written] at member
      rcases List.mem_append.1 member with before | behind
      · exact isAtomic_of_isDigit (allWhole c before)
      · rcases List.mem_cons.1 behind with rfl | behind
        · decide
        · exact isAtomic_of_isDigit (allFraction c behind)
  rw [Number.plain_write] at member
  split at member
  · rcases List.mem_cons.1 member with rfl | inside
    · decide
    · exact body c inside
  · exact body c member

/-- The text of an infinity, which is no numeral. -/
theorem text_of_isInf {x : Float} (infinite : x.isInf = true) :
    Number.text Number.plain x = if Binary64.isNegative x then "-inf" else "inf" := by
  obtain ⟨notFinite, number⟩ := Binary64.not_finite_of_isInf infinite
  rw [Number.text, if_neg (by rw [notFinite]; decide), if_neg (by rw [number]; decide)]

theorem isAtomText_number (x : Float) : IsAtomText (Number.text Number.plain x) := by
  unfold Number.text
  split
  next finite =>
    refine ⟨fun empty => ?_, fun c member => isAtomic_of_mem_plain (by simpa using member)⟩
    have readBack := Number.read?_text finite
    rw [Number.text, if_pos finite, empty] at readBack
    cases readBack
  next =>
    split
    · decide
    · split
      · decide
      · decide

namespace Number

theorem isNaN_of_read? {numeral : String} {x : Float} (read : read? numeral = some x) :
    x.isNaN = false := by
  obtain ⟨_, _, d, _, _, _, rfl⟩ := read?_eq_some_iff.1 read
  exact Decimal.isNaN_toFloat d

end Number

/-! ## Values of atoms -/

namespace Atom

theorem value_of_read? {text : String} {x : Float} (read : Number.read? text = some x) :
    value text = .number x := by
  unfold value
  split
  · cases read
  · cases read
  · cases read
  · rw [read]

/-- An atom that is neither a keyword nor a numeral. -/
def IsWord (text : String) : Prop :=
  text ≠ "nil" ∧ text ≠ "true" ∧ text ≠ "false" ∧ Number.read? text = none

theorem value_of_isWord {text : String} (word : IsWord text) : value text = .string text := by
  obtain ⟨notNil, notTrue, notFalse, noNumber⟩ := word
  unfold value
  split
  · exact absurd rfl notNil
  · exact absurd rfl notTrue
  · exact absurd rfl notFalse
  · rw [noNumber]

theorem read?_of_value_eq {text : String} {x : Float} (stands : value text = .number x) :
    Number.read? text = some x := by
  unfold value at stands
  split at stands
  · cases stands
  · cases stands
  · cases stands
  · split at stands
    next found =>
      cases stands
      exact found
    next => cases stands

theorem isWord_of_value_eq {text word : String} (stands : value text = .string word) :
    text = word ∧ IsWord text := by
  unfold value at stands
  split at stands
  · cases stands
  · cases stands
  · cases stands
  next notNil notTrue notFalse =>
    split at stands
    next => cases stands
    next none =>
      cases stands
      exact ⟨rfl, notNil, notTrue, notFalse, none⟩

end Atom

namespace Value

/-- The value is what some atom stands for. -/
def IsReadable (value : Value) : Prop := ∃ text, IsAtomText text ∧ Atom.value text = value

/-- The text of the value is an atom. -/
def IsAtom (value : Value) : Prop := IsAtomText value.text

/-- What the text of the value stands for. -/
def asRead (value : Value) : Value := Atom.value value.text

/-- The value that is read back from the text of a readable one: an infinity is read as a word. -/
def reread : Value → Value
  | .nil => .nil
  | .boolean truth => .boolean truth
  | .number x =>
    if x.isInf then .string (if Binary64.isNegative x then "-inf" else "inf") else .number x
  | .string text => .string text

theorem IsReadable.isNaN {x : Float} (readable : (number x).IsReadable) : x.isNaN = false := by
  obtain ⟨text, _, stands⟩ := readable
  exact Number.isNaN_of_read? (Atom.read?_of_value_eq stands)

theorem isAtom_of_not_string {value : Value} (noString : ∀ text, value ≠ .string text) :
    value.IsAtom := by
  cases value with
  | nil => exact show IsAtomText "nil" by decide
  | boolean truth =>
    cases truth with
    | true => exact show IsAtomText "true" by decide
    | false => exact show IsAtomText "false" by decide
  | number x => exact isAtomText_number x
  | string text => exact absurd rfl (noString text)

theorem IsReadable.isAtom {value : Value} (readable : value.IsReadable) : value.IsAtom := by
  cases value with
  | nil | boolean _ | number _ => exact isAtom_of_not_string nofun
  | string word =>
    obtain ⟨text, atom, stands⟩ := readable
    exact (Atom.isWord_of_value_eq stands).1 ▸ atom

theorem asRead_of_isReadable {value : Value} (readable : value.IsReadable) :
    value.asRead = value.reread := by
  unfold asRead
  cases value with
  | nil => rfl
  | boolean truth => cases truth <;> rfl
  | number x =>
    have number := readable.isNaN
    cases finite : Binary64.isFinite x with
    | true =>
      rw [reread, Binary64.isInf_of_finite finite]
      exact Atom.value_of_read? (Number.read?_text finite)
    | false =>
      have infinite := Binary64.isInf_of_not_finite finite number
      simp only [Value.text, text_of_isInf infinite, reread, infinite, if_true]
      split <;> rfl
  | string word =>
    obtain ⟨text, _, stands⟩ := readable
    obtain ⟨rfl, isWord⟩ := Atom.isWord_of_value_eq stands
    exact Atom.value_of_isWord isWord

/-- An infinity comes back as a word that is written alike. -/
theorem text_reread (value : Value) : value.reread.text = value.text := by
  cases value with
  | number x =>
    cases infinite : x.isInf with
    | true => simp [reread, infinite, Value.text, text_of_isInf infinite]
    | false => simp [reread, infinite]
  | nil | boolean _ | string _ => rfl

end Value

end LoxForms
