import LoxForms.Decimal.Exact
import LoxForms.Number

/-! # Written numbers read back

Main statement: `read?` gives a finite number again from its plain text, the sign of zero included.
What is read begins with a digit, or with a minus and a digit, so it is none of the words for what is
not finite, and the number behind the sign is all that matters (`read?_of_isDigit`).
-/

namespace LoxForms.Decimal

/-! ## Runs of digits -/

theorem isDigit_of_mem_toDigits {n : Nat} {c : Char} (member : c ∈ Nat.toDigits 10 n) :
    c.isDigit = true :=
  Nat.isDigit_of_mem_toDigits (by omega) (by omega) member

theorem head?_append_of_isDigit {digits rest : List Char} (nonempty : digits ≠ [])
    (allDigits : ∀ c ∈ digits, c.isDigit = true) :
    (digits ++ rest).head?.any Char.isDigit = true := by
  cases digits with
  | nil => exact absurd rfl nonempty
  | cons digit others => exact allDigits digit List.mem_cons_self

theorem splitDigits_append {digits rest : List Char}
    (allDigits : ∀ c ∈ digits, c.isDigit = true) (stop : rest.head?.all (!·.isDigit) = true) :
    splitDigits (digits ++ rest) = (digits, rest) := by
  rw [splitDigits, List.takeWhile_append_of_pos allDigits, List.dropWhile_append_of_pos allDigits]
  cases rest with
  | nil => simp
  | cons c rest =>
    have noDigit : c.isDigit = false := by simpa using stop
    simp [noDigit]

theorem digitsValue_replicate_append (n : Nat) (digits : List Char) :
    digitsValue (List.replicate n '0' ++ digits) = digitsValue digits := by
  simp [digitsValue, Nat.ofDigitChars_append]

theorem digitsValue_append_replicate (n : Nat) (digits : List Char) :
    digitsValue (digits ++ List.replicate n '0') = digitsValue digits * 10 ^ n := by
  simp [digitsValue, Nat.ofDigitChars_append, Nat.mul_comm]

theorem digitsValue_toDigits (n : Nat) : digitsValue (Nat.toDigits 10 n) = n :=
  Nat.ofDigitChars_ten_toDigits

/-! ## Numbers without their sign -/

/-- An exponent begins with its mark. -/
theorem eq_nil_or_exists_mark {rest : List Char} {exponent : Int}
    (ends : exponent? rest = some exponent) :
    rest = [] ∨ ∃ mark cs, rest = mark :: cs ∧ (mark = 'e' ∨ mark = 'E') := by
  cases rest with
  | nil => exact .inl rfl
  | cons mark cs =>
    refine .inr ⟨mark, cs, rfl, ?_⟩
    by_contra noMark
    simp [exponent?, noMark] at ends

theorem head?_of_exponent? {rest : List Char} {exponent : Int}
    (ends : exponent? rest = some exponent) : rest.head?.all (!·.isDigit) = true := by
  rcases eq_nil_or_exists_mark ends with rfl | ⟨mark, cs, rfl, rfl | rfl⟩
  · rfl
  · rfl
  · rfl

theorem splitFraction_of_exponent? {rest : List Char} {exponent : Int}
    (ends : exponent? rest = some exponent) : splitFraction rest = ([], rest) := by
  rcases eq_nil_or_exists_mark ends with rfl | ⟨mark, cs, rfl, rfl | rfl⟩
  · rfl
  · rfl
  · rfl

theorem ofUnsigned?_whole {whole rest : List Char} {exponent : Int} (nonempty : whole ≠ [])
    (allDigits : ∀ c ∈ whole, c.isDigit = true) (ends : exponent? rest = some exponent)
    (negative : Bool) :
    ofUnsigned? negative (whole ++ rest) = some ⟨negative, digitsValue whole, exponent⟩ := by
  have run : splitDigits (whole ++ rest) = (whole, rest) :=
    splitDigits_append allDigits (head?_of_exponent? ends)
  simp [ofUnsigned?, run, splitFraction_of_exponent? ends, nonempty, ends]

theorem ofUnsigned?_point {whole fraction rest : List Char} {exponent : Int}
    (nonempty : whole ≠ [] ∨ fraction ≠ []) (allWhole : ∀ c ∈ whole, c.isDigit = true)
    (allFraction : ∀ c ∈ fraction, c.isDigit = true) (ends : exponent? rest = some exponent)
    (negative : Bool) :
    ofUnsigned? negative (whole ++ '.' :: (fraction ++ rest)) =
      some ⟨negative, digitsValue (whole ++ fraction), exponent - fraction.length⟩ := by
  have run : splitDigits (whole ++ '.' :: (fraction ++ rest)) = (whole, '.' :: (fraction ++ rest)) :=
    splitDigits_append allWhole rfl
  have others : splitDigits (fraction ++ rest) = (fraction, rest) :=
    splitDigits_append allFraction (head?_of_exponent? ends)
  have written : (whole.isEmpty && fraction.isEmpty) = false := by
    simpa [← not_and_or] using nonempty
  simp [ofUnsigned?, run, splitFraction, others, written, ends]

/-! ## The plain layout -/

/-- Writing a number out in full turns a positive exponent into zeros. -/
def spelledOut (d : Decimal) : Decimal :=
  if 0 ≤ d.exponent then ⟨d.negative, d.digits * 10 ^ d.exponent.toNat, 0⟩ else d

/-- A number with no places is written as digits. -/
theorem full_of_nonneg {exponent : Int} (nonneg : 0 ≤ exponent) (n : Nat) :
    ∃ whole, full [] (Nat.toDigits 10 n) exponent = whole ∧ whole ≠ [] ∧
      (∀ c ∈ whole, c.isDigit = true) ∧ digitsValue whole = n * 10 ^ exponent.toNat := by
  refine ⟨_, rfl, ?_⟩
  rw [full, if_pos nonneg, List.append_nil, digitsValue_append_replicate, digitsValue_toDigits]
  refine ⟨by simp [Nat.toDigits_ne_nil], fun c member => ?_, rfl⟩
  rcases List.mem_append.1 member with digit | zero
  · exact isDigit_of_mem_toDigits digit
  · rw [(List.mem_replicate.1 zero).2]
    decide

/-- A number with places is written as digits around a point. -/
theorem full_of_neg {exponent : Int} (negative : ¬ 0 ≤ exponent) (n : Nat) :
    ∃ whole fraction, full [] (Nat.toDigits 10 n) exponent = whole ++ '.' :: fraction ∧
      whole ≠ [] ∧ (∀ c ∈ whole, c.isDigit = true) ∧ (∀ c ∈ fraction, c.isDigit = true) ∧
      digitsValue (whole ++ fraction) = n ∧ -(fraction.length : Int) = exponent := by
  simp only [full, negative, if_false]
  generalize placesEq : (-exponent).toNat = places
  generalize paddedEq : List.replicate (places + 1 - (Nat.toDigits 10 n).length) '0' ++
    Nat.toDigits 10 n = padded
  have long : places + 1 ≤ padded.length := by
    rw [← paddedEq]
    simp only [List.length_append, List.length_replicate]
    omega
  have allDigits : ∀ c ∈ padded, c.isDigit = true := by
    intro c member
    rw [← paddedEq] at member
    rcases List.mem_append.1 member with zero | digit
    · rw [(List.mem_replicate.1 zero).2]
      decide
    · exact isDigit_of_mem_toDigits digit
  have value : digitsValue padded = n := by
    rw [← paddedEq, digitsValue_replicate_append, digitsValue_toDigits]
  rw [List.splitAt_eq]
  refine ⟨_, _, rfl, fun empty => ?_, fun c member => allDigits c (List.mem_of_mem_take member),
    fun c member => allDigits c (List.mem_of_mem_drop member), ?_, ?_⟩
  · have none := congrArg List.length empty
    rw [List.length_take, List.length_nil] at none
    omega
  · rw [List.take_append_drop, value]
  · rw [List.length_drop]
    omega

/-- What is written out in full begins with a digit. -/
theorem head?_full (n : Nat) (exponent : Int) :
    (full [] (Nat.toDigits 10 n) exponent).head?.any Char.isDigit = true := by
  by_cases nonneg : 0 ≤ exponent
  · obtain ⟨whole, written, nonempty, allDigits, -⟩ := full_of_nonneg nonneg n
    rw [written, ← List.append_nil whole]
    exact head?_append_of_isDigit nonempty allDigits
  · obtain ⟨whole, fraction, written, nonempty, allDigits, -⟩ := full_of_neg nonneg n
    rw [written]
    exact head?_append_of_isDigit nonempty allDigits

theorem ofUnsigned?_full (d : Decimal) :
    ofUnsigned? d.negative (full [] (Nat.toDigits 10 d.digits) d.exponent) = some d.spelledOut := by
  unfold spelledOut
  by_cases nonneg : 0 ≤ d.exponent
  · obtain ⟨whole, written, nonempty, allDigits, value⟩ := full_of_nonneg nonneg d.digits
    rw [written, if_pos nonneg, ← List.append_nil whole, ofUnsigned?_whole nonempty allDigits rfl,
      value]
  · obtain ⟨whole, fraction, written, nonempty, allWhole, allFraction, value, places⟩ :=
      full_of_neg nonneg d.digits
    rw [written, if_neg nonneg, ← List.append_nil fraction,
      ofUnsigned?_point (.inl nonempty) allWhole allFraction rfl, value, Int.zero_sub, places]

theorem toFloat_spelledOut {d : Decimal}
    (finite : nearestRank d.digits d.exponent < Binary64.infinityRank) :
    d.spelledOut.toFloat = d.toFloat := by
  unfold spelledOut
  by_cases whole : 0 ≤ d.exponent
  · rw [if_pos whole]
    simp only [toFloat]
    congr 1
    rw [nearestRank, if_pos whole] at finite
    rw [nearestRank, nearestRank, if_pos whole, if_pos (by decide)]
    by_cases zero : d.digits = 0
    · simp [zero]
    · have bounded : ¬ 309 ≤ d.exponent := by
        intro large
        rw [if_neg zero, if_pos large] at finite
        omega
      have nonzero : d.digits * 10 ^ d.exponent.toNat ≠ 0 :=
        Nat.mul_ne_zero zero (Nat.ne_of_gt (Nat.pow_pos (by omega)))
      rw [if_neg zero, if_neg bounded, if_neg nonzero, if_neg (by decide)]
      simp
  · rw [if_neg whole]

end LoxForms.Decimal

namespace LoxForms.Number

/-! ## Numbers behind a minus -/

section

variable {cs : List Char} (digit : cs.head?.any Char.isDigit = true) (negative : Bool)

include digit

theorem splitSign_of_isDigit :
    Decimal.splitSign (if negative then '-' :: cs else cs) = (negative, cs) := by
  cases cs with
  | nil => cases digit
  | cons c others =>
    have noMinus : c ≠ '-' := by rintro rfl; cases digit
    have noPlus : c ≠ '+' := by rintro rfl; cases digit
    cases negative <;> simp [Decimal.splitSign, noMinus, noPlus]

theorem looksNumeric_of_isDigit :
    looksNumeric (String.ofList (if negative then '-' :: cs else cs)) = true := by
  cases cs with
  | nil => cases digit
  | cons c others =>
    have noMinus : c ≠ '-' := by rintro rfl; cases digit
    cases negative with
    | true => simpa [looksNumeric] using digit
    | false => simpa [looksNumeric, noMinus] using digit

/-- No word for what is not finite begins with a digit. -/
theorem ofWord?_of_isDigit : ofWord? negative cs = none := by
  cases cs with
  | nil => cases digit
  | cons c others =>
    have isDigit : c.isDigit = true := digit
    have small : ¬ c.isUpper = true := by
      intro capital
      have low : 'A'.toNat ≤ c.toNat := (of_decide_eq_true capital).1
      have high : c.toNat ≤ '9'.toNat := (Char.isDigit_iff_toNat.1 isDigit).2
      exact absurd (Nat.le_trans low high) (by decide)
    have notI : c ≠ 'i' := by rintro rfl; cases isDigit
    have notN : c ≠ 'n' := by rintro rfl; cases isDigit
    simp [ofWord?, Char.toLower_eq_of_not_isUpper small, notI, notN]

/-- Of a text that begins with a digit, or with a minus and a digit, the number is read that is
written behind the sign. -/
theorem read?_of_isDigit :
    read? (String.ofList (if negative then '-' :: cs else cs)) =
      (Decimal.ofUnsigned? negative cs).map Decimal.toFloat := by
  rw [read?, looksNumeric_of_isDigit digit, if_pos rfl, parse?, String.toList_ofList,
    splitSign_of_isDigit digit]
  simp only [ofWord?_of_isDigit digit]

end

theorem looksNumeric_iff {text : String} :
    looksNumeric text = true ↔
      ∃ (negative : Bool) (cs : List Char), cs.head?.any Char.isDigit = true ∧
        text = String.ofList (if negative then '-' :: cs else cs) := by
  refine ⟨fun numeric => ?_, ?_⟩
  · unfold looksNumeric at numeric
    dsimp only at numeric
    split at numeric
    next cs chars => exact ⟨true, cs, numeric, by rw [if_pos rfl, ← chars, String.ofList_toList]⟩
    next => exact ⟨false, text.toList, numeric, by simp⟩
  · rintro ⟨negative, cs, digit, rfl⟩
    exact looksNumeric_of_isDigit digit negative

/-- What is read is the number behind an optional minus, and it begins with a digit. -/
theorem read?_eq_some_iff {text : String} {x : Float} :
    read? text = some x ↔
      ∃ (negative : Bool) (cs : List Char) (d : Decimal), cs.head?.any Char.isDigit = true ∧
        text = String.ofList (if negative then '-' :: cs else cs) ∧
        Decimal.ofUnsigned? negative cs = some d ∧ d.toFloat = x := by
  constructor
  · intro read
    have numeric : looksNumeric text = true := by
      by_contra other
      rw [read?, if_neg other] at read
      cases read
    obtain ⟨negative, cs, digit, rfl⟩ := looksNumeric_iff.1 numeric
    rw [read?_of_isDigit digit] at read
    obtain ⟨d, written, same⟩ := Option.map_eq_some_iff.1 read
    exact ⟨negative, cs, d, digit, rfl, written, same⟩
  · rintro ⟨negative, cs, d, digit, rfl, written, rfl⟩
    rw [read?_of_isDigit digit, written, Option.map_some]

theorem plain_write (d : Decimal) :
    plain.write d =
      if d.negative then '-' :: Decimal.full [] (Nat.toDigits 10 d.digits) d.exponent
      else Decimal.full [] (Nat.toDigits 10 d.digits) d.exponent := rfl

theorem read?_text {x : Float} (finite : Binary64.isFinite x = true) :
    read? (text plain x) = some x := by
  have bound : Binary64.rank x < Binary64.infinityRank := by
    simpa [Binary64.isFinite] using finite
  have bounded : Decimal.nearestRank (Decimal.shortest x).digits (Decimal.shortest x).exponent <
      Binary64.infinityRank := by
    simp only [Decimal.shortest]
    rw [Decimal.nearestRank_shortestOfRank bound]
    exact bound
  rw [text, if_pos finite, plain_write, read?_of_isDigit (Decimal.head?_full _ _),
    Decimal.ofUnsigned?_full, Option.map_some, Decimal.toFloat_spelledOut bounded,
    Decimal.toFloat_shortest finite]

end LoxForms.Number
