import TextTemplate.Proofs.Decimal.Magnitude
import TextTemplate.Proofs.Expression.RoundTrip

/-! Whole numerals as 64-bit integers. A numeral within the range is read as it stands, and any other by
way of the nearest float. A float next to the range never lies inside it, so the two ways meet, and a
numeral of any length is the integer that it writes, clamped to the range. -/
namespace TextTemplate

open Expression.Grammar

namespace Expression

open Literal (isNumberChar)

variable {c : Char} {text : List Char} {number : ℤ}

theorem plain_of_numberChar (char : isNumberChar c = true) :
    Text.isBlank c = false ∧ c ≠ '\\' ∧ c ≠ '\x27' ∧ c ≠ '"' := by
  simp only [isNumberChar, Literal.isNumeric, Literal.isExponentMark, Literal.isSign, Bool.or_eq_true, beq_iff_eq] at char
  rcases char with ((digit | rfl) | (rfl | rfl)) | (rfl | rfl)
  · have visible := visible_of_digit (Decimal.isDigit_iff.mp digit)
    refine ⟨not_blank_of_visible visible.1 visible.2, ?_, ?_, ?_⟩
    · rintro rfl
      exact absurd digit (by decide)
    · rintro rfl
      exact absurd digit (by decide)
    · rintro rfl
      exact absurd digit (by decide)
  all_goals decide

theorem endsRun_of_numberChars (chars : ∀ c ∈ text, isNumberChar c = true) :
    Text.EndsRun Text.isBlank text ∧ Text.EndsRun Text.isBlank text.reverse := by
  have visible : ∀ c ∈ text, Text.isBlank c = false := fun c member => (plain_of_numberChar (chars c member)).1
  refine ⟨fun c first => visible c (List.mem_of_head? first), fun c last => visible c ?_⟩
  exact List.mem_reverse.mp (List.mem_of_head? last)

theorem numberChars_of_wholeText (whole : WholeText text number) : ∀ c ∈ text, isNumberChar c = true := by
  have chars := Literal.numberText_chars text
  have taken := Literal.numberText_whole whole (Text.endsRun_nil _)
  rw [List.append_nil] at taken
  rwa [taken] at chars

end Expression

namespace Decimal

/-- A text writes an integer with its digits behind any number of zeros, and with a sign if there is one. -/
inductive Writes : ℤ → List Char → Prop where
  | numeral (signed : Sign sign negative) (zeros magnitude : ℕ) :
      Writes (applySign negative magnitude) (sign ++ List.replicate zeros '0' ++ digits magnitude)

variable {text : List Char} {number : ℤ}

theorem digitsValue_zeros (zeros : ℕ) (text : List Char) :
    digitsValue (List.replicate zeros '0' ++ text) = digitsValue text := by
  induction zeros with
  | zero => rfl
  | succ zeros ih =>
    rw [List.replicate_succ, List.cons_append, digitsValue, Nat.ofDigitChars_cons]
    exact ih

theorem Writes.wholeText (written : Writes number text) : WholeText text number := by
  obtain ⟨signed, zeros, magnitude⟩ := written
  obtain ⟨nonempty, digit⟩ := Expression.digits_toDigits magnitude
  have run : Digits (List.replicate zeros '0' ++ digits magnitude) := by
    refine ⟨by simp [nonempty], fun c member => ?_⟩
    rcases List.mem_append.mp member with zero | own
    · rw [(List.mem_replicate.mp zero).2]
      exact ⟨by decide, by decide⟩
    · exact digit c own
  have whole := WholeText.whole signed run
  rwa [digitsValue_zeros, Expression.digitsValue_digits, ← List.append_assoc] at whole

theorem toInt_ofIntClamp (number : ℤ) :
    (Int64.ofIntClamp number).toInt = max Int64.minValue.toInt (min Int64.maxValue.toInt number) := by
  have ordered : Int64.minValue.toInt ≤ Int64.maxValue.toInt := by decide
  unfold Int64.ofIntClamp
  split
  · split
    · rw [Int64.toInt_ofIntLE]
      omega
    · omega
  · omega

theorem ofIntClamp_far {size : ℕ} (negative : Bool) (far : 2 ^ 63 ≤ size) :
    Int64.ofIntClamp (applySign negative size) = if negative then Int64.minValue else Int64.maxValue := by
  rw [← Int64.toInt_inj, toInt_ofIntClamp]
  cases negative with
  | true =>
    rw [applySign, if_pos rfl, if_pos rfl, Int64.toInt_minValue, Int64.toInt_maxValue]
    omega
  | false =>
    rw [applySign, if_neg Bool.false_ne_true, if_neg Bool.false_ne_true, Int64.toInt_minValue, Int64.toInt_maxValue]
    omega

theorem magnitude?_whole (negative : Bool) (coefficient : ℕ) :
    (⟨negative, coefficient, 0⟩ : Numeral).magnitude? = Magnitude.ofRatio? coefficient 1 := by
  by_cases zero : coefficient = 0
  · rw [zero]
    rfl
  · simp [Numeral.magnitude?, zero]

/-- The float nearest to a number of `2 ^ 63` or more is not below that. -/
theorem le_floor_of_ofRatio? {coefficient : ℕ} {magnitude : Magnitude}
    (nearest : Magnitude.ofRatio? coefficient 1 = some magnitude) (great : 2 ^ 63 ≤ coefficient) :
    2 ^ 63 ≤ magnitude.floor := by
  have power : rounded ((2 : ℚ) ^ 63) = 2 ^ 63 := by
    have own := rounded_scaled (2 ^ 52) 11 (by norm_num) (by norm_num)
    norm_num at own ⊢
    exact own
  have bound : (2 : ℚ) ^ 63 ≤ rounded (coefficient / (1 : ℕ)) := by
    rw [Nat.cast_one, div_one, ← power]
    exact rounded_mono (by positivity) (by exact_mod_cast great)
  rw [Magnitude.floor_eq, (Magnitude.ofRatio?_eq_some one_pos).mp nearest]
  exact Nat.le_floor (by exact_mod_cast bound)

/-- Outside the range a whole numeral is truncated to the end of the range on its side. -/
theorem truncate_whole {negative : Bool} {coefficient : ℕ}
    (beyond : applySign negative coefficient < Int64.minValue.toInt ∨
      Int64.maxValue.toInt < applySign negative coefficient) :
    (⟨negative, coefficient, 0⟩ : Numeral).toBinary64.truncate = Int64.ofIntClamp (applySign negative coefficient) := by
  have far : 2 ^ 63 ≤ coefficient := by
    rw [Int64.toInt_minValue, Int64.toInt_maxValue] at beyond
    unfold applySign at beyond
    split at beyond <;> omega
  rw [ofIntClamp_far negative far, Numeral.toBinary64, magnitude?_whole]
  cases nearest : Magnitude.ofRatio? coefficient 1 with
  | none => rfl
  | some magnitude => exact ofIntClamp_far negative (le_floor_of_ofRatio? nearest far)

theorem read?_wholeText (whole : WholeText text number) : ∃ negative coefficient,
    Binary64.read? text = some (⟨negative, coefficient, 0⟩ : Numeral).toBinary64 ∧
      applySign negative coefficient = number := by
  have chars := Expression.numberChars_of_wholeText whole
  have plain := fun c member => Expression.Literal.toLower_ne_of_isNumberChar (chars c member)
  obtain ⟨signed, run⟩ := whole
  have numeral := NumeralText.numeral signed (.whole run) .absent
  rw [List.append_nil] at numeral
  exact ⟨_, _, (binary64_read?_eq_some plain).mpr ⟨_, numeral, rfl⟩, rfl⟩

end Decimal

namespace Value

open Decimal

variable {before text after : List Char} {number : ℤ}

/-- A whole numeral among blanks is read as its integer, clamped to the range. -/
theorem readInteger_wholeText (whole : WholeText text number) (left : Text.Blanks before) (right : Text.Blanks after) :
    readInteger (before ++ text ++ after) = Int64.ofIntClamp number := by
  obtain ⟨starts, finishes⟩ := Expression.endsRun_of_numberChars (Expression.numberChars_of_wholeText whole)
  simp only [readInteger, Text.trim_wrapped left right starts finishes, readInt64?, readInt?_eq_some.mpr whole,
    Option.bind_some]
  by_cases within : Int64.minValue.toInt ≤ number ∧ number ≤ Int64.maxValue.toInt
  · rw [if_pos within]
  · obtain ⟨negative, coefficient, read, rfl⟩ := read?_wholeText whole
    rw [if_neg within, read]
    exact truncate_whole (by omega)

/-- An integer that is written with any number of digits, with or without a sign, behind any number of zeros and
among any blanks, is read as itself, or as the nearer end of the range when it lies outside. -/
theorem integer_of_writes (written : Writes number text) (left : Text.Blanks before) (right : Text.Blanks after) :
    (Value.str (String.ofList (before ++ text ++ after))).integer.toInt =
      max Int64.minValue.toInt (min Int64.maxValue.toInt number) := by
  rw [integer, String.toList_ofList, readInteger_wholeText written.wholeText left right, toInt_ofIntClamp]

/-- One below the range, behind zeros and between wide blanks, and a numeral that no finite float is near. -/
theorem integer_of_writes_beyond :
    (Value.str "\u2003-0009223372036854775809\u00a0").integer = Int64.minValue ∧
      (Value.str (String.ofList ('+' :: digits (10 ^ 400)))).integer = Int64.maxValue := by
  have lowest : Writes (-9223372036854775809) "-0009223372036854775809".toList := .numeral .minus 3 9223372036854775809
  have signed (magnitude : ℕ) : Writes magnitude ('+' :: digits magnitude) := .numeral .plus 0 magnitude
  have huge : 10 ^ 19 ≤ 10 ^ 400 := pow_le_pow_right₀ (by decide) (by decide)
  have wide : Text.Blanks ['\u2003'] := by simp [Text.Blanks, Text.isBlank, Text.blankRanges]
  have fixed : Text.Blanks ['\u00a0'] := by simp [Text.Blanks, Text.isBlank, Text.blankRanges]
  have below := integer_of_writes lowest wide fixed
  have above := integer_of_writes (signed (10 ^ 400)) Text.blanks_nil Text.blanks_nil
  constructor
  · exact Int64.toInt_inj.mp (below.trans (by decide))
  · rw [List.nil_append, List.append_nil] at above
    refine Int64.toInt_inj.mp (above.trans ?_)
    rw [Int64.toInt_minValue, Int64.toInt_maxValue]
    generalize 10 ^ 400 = magnitude at huge ⊢
    omega

end Value

end TextTemplate
