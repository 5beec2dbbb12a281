import TextTemplate.Proofs.Decimal.Fewest
import TextTemplate.Proofs.Value.Clamping

/-! Floats that are whole numbers. Below a bound they are written by way of the integer that they equal, and above
it with the fewest digits that read back. As long as every whole number is a float, the fewest digits are all
digits of the number, so that both ways write the same numeral. -/
namespace TextTemplate

open Expression (wholeText_intDigits)

namespace Decimal

def Binary64.exactValue? : Binary64 → Option ℚ
  | .finite negative magnitude => some (if negative then -magnitude.value else magnitude.value)
  | _ => none

variable {magnitude : Magnitude} {number zeros : ℕ}

theorem ofList_intDigits (number : ℤ) : String.ofList (intDigits number) = toString number := by
  cases number with
  | ofNat number => rfl
  | negSucc number =>
    have sign : intDigits (.negSucc number) = ['-'] ++ digits (number + 1) := if_pos (Int.negSucc_lt_zero number)
    rw [sign, String.ofList_append]
    rfl

theorem rounded_ten_pow {places : ℕ} (few : places ≤ 22) :
    rounded ((10 ^ places : ℕ) : ℚ) = (10 ^ places : ℕ) := by
  have fits : 5 ^ places ≤ 2 ^ 53 := (Nat.pow_le_pow_right (by decide) few).trans (by norm_num)
  have own := rounded_scaled (5 ^ places) places fits (by omega)
  have power : ((10 ^ places : ℕ) : ℚ) = (5 ^ places : ℕ) * 2 ^ (places : ℤ) := by
    rw [zpow_natCast]
    push_cast
    rw [← mul_pow]
    norm_num
  rw [power, own]

/-- A whole number that is a float with all its digits is shortened to itself. -/
theorem Shortens.eq_self {whole : ℕ} (small : whole ≤ 2 ^ 53) (shortens : Shortens whole zeros number) :
    number = whole := by
  by_cases fits : number ≤ 2 ^ 53
  · have own := shortens.reads
    rw [rounded_natCast fits] at own
    exact_mod_cast own
  · have next : rounded ((2 ^ 53 + 2 : ℕ) : ℚ) = (2 ^ 53 + 2 : ℕ) := by
      have own := rounded_scaled (2 ^ 52 + 1) 1 (by norm_num) (by norm_num)
      norm_num at own ⊢
      exact own
    by_cases far : 2 ^ 53 + 2 ≤ number
    · have above := rounded_mono (Nat.cast_nonneg _) (show ((2 ^ 53 + 2 : ℕ) : ℚ) ≤ number by exact_mod_cast far)
      rw [next, shortens.reads] at above
      have great : 2 ^ 53 + 2 ≤ whole := by exact_mod_cast above
      omega
    · -- the one number between, which reads back by the rule for ties, has no zero at its end
      obtain rfl : number = 2 ^ 53 + 1 := by omega
      obtain rfl : zeros = 0 := by
        by_contra some
        have ten : 10 ∣ 2 ^ 53 + 1 := (dvd_pow_self 10 some).trans shortens.ends
        omega
      have near := (shortens.nearest whole (one_dvd _) (rounded_natCast small)).1
      rw [sub_self, abs_zero, abs_nonpos_iff, sub_eq_zero] at near
      exact_mod_cast near.symm

end Decimal

namespace Value

open Decimal

variable {magnitude : Magnitude} {whole zeros number : ℕ}

/-- The layout writes the digits of the number to which a whole float is shortened. -/
theorem magnitude_shortens (value : magnitude.value = whole) (positive : 0 < whole) (few : Nat.log 10 whole < 22)
    (within : zeros ≤ Nat.log 10 whole) (short : Nat.log 10 whole < zeros + 17) (ends : 10 ^ zeros ∣ number)
    (reads : rounded number = whole) :
    ∃ places shortened, zeros ≤ places ∧ Shortens whole places shortened ∧
      floatLayout.magnitude magnitude = digits shortened := by
  have nonzero : 0 < magnitude.value := by rwa [value, Nat.cast_pos]
  have full := Magnitude.significand_pos nonzero
  have lead : magnitude.leadingExponent = Nat.log 10 whole := by
    rw [Magnitude.leadingExponent_eq full, value, Int.log_natCast]
  have beyond : magnitude.value < rounded (10 ^ (Nat.log 10 whole + 1) : ℕ) := by
    rw [rounded_ten_pow few, value]
    exact_mod_cast Nat.lt_pow_succ_log_self (by decide) whole
  obtain ⟨places, _, significand, exponent, many, shortens, shortest, rfl⟩ :=
    Magnitude.exists_shortest full lead beyond within short ends (reads.trans value.symm)
  rw [value] at nonzero shortens
  refine ⟨places, _, many, shortens, ?_⟩
  have some : 0 < significand := by
    apply Nat.pos_of_ne_zero
    rintro rfl
    have none := shortens.reads
    rw [zero_mul, Nat.cast_zero, rounded_zero] at none
    exact nonzero.ne none
  have written : floatLayout.magnitude magnitude = digits (significand * 10 ^ exponent) :=
    Layout.magnitude_whole (fun _ => rfl) rfl some shortest
  exact written

/-- Beyond the bound the layout writes all digits of a whole number. -/
theorem magnitude_whole (value : magnitude.value = whole) (beyond : wholeBound ≤ whole) (small : whole ≤ 2 ^ 53) :
    floatLayout.magnitude magnitude = digits whole := by
  have low : 10 ^ 15 ≤ whole := beyond
  have least : 15 ≤ Nat.log 10 whole := Nat.le_log_of_pow_le (by decide) low
  have most : Nat.log 10 whole < 16 := Nat.log_lt_of_lt_pow (by omega) (by omega)
  obtain ⟨places, shortened, _, shortens, written⟩ := magnitude_shortens value (by omega) (by omega) (Nat.zero_le _)
    (by omega) (one_dvd whole) (rounded_natCast small)
  rw [written, shortens.eq_self small]

theorem intDigits_applySign (negative : Bool) (positive : 0 < whole) :
    intDigits (applySign negative whole) = (if negative then ['-'] else []) ++ digits whole := by
  cases negative with
  | true =>
    have below : -(whole : ℤ) < 0 := by omega
    rw [applySign, if_pos rfl, intDigits, if_pos below, Int.natAbs_neg]
    rfl
  | false =>
    simp [applySign, intDigits]

/-- A whole float has the numeral of its value on both sides of the bound. -/
theorem floatText_whole (negative : Bool) (value : magnitude.value = whole) (small : whole ≤ 2 ^ 53) :
    floatText (.finite negative magnitude) = intDigits (applySign negative whole) := by
  have floor : magnitude.floor = whole := by rw [Magnitude.floor_eq, value, Nat.floor_natCast]
  have integral : magnitude.isWhole = true := Magnitude.isWhole_iff.mpr ⟨whole, value⟩
  by_cases below : whole < wholeBound
  · simp [floatText, integral, floor, below]
  · have positive : 0 < whole := lt_of_lt_of_le (by decide) (Nat.le_of_not_lt below)
    rw [intDigits_applySign negative positive, ← magnitude_whole value (Nat.le_of_not_lt below) small]
    simp [floatText, integral, floor, below, Layout.write]

theorem exists_parts {number : Binary64} {whole : ℤ} (exact : number.exactValue? = some (whole : ℚ)) :
    ∃ negative magnitude, number = .finite negative magnitude ∧ ∃ size : ℕ, magnitude.value = size ∧
      applySign negative size = whole := by
  cases number with
  | infinite negative => cases exact
  | nan => cases exact
  | finite negative magnitude =>
    have nonneg := magnitude.value_nonneg
    have same : (if negative then -magnitude.value else magnitude.value) = whole := Option.some.inj exact
    refine ⟨negative, magnitude, rfl, whole.natAbs, ?_⟩
    cases negative with
    | true =>
      have value : magnitude.value = ((-whole : ℤ) : ℚ) := by
        rw [Int.cast_neg, ← same, if_pos rfl, neg_neg]
      have sign : 0 ≤ -whole := by exact_mod_cast value ▸ nonneg
      obtain ⟨size, own⟩ := Int.eq_ofNat_of_zero_le sign
      obtain rfl : whole = -size := by omega
      rw [Int.natAbs_neg, Int.natAbs_natCast]
      exact ⟨by simpa using value, rfl⟩
    | false =>
      have value : magnitude.value = (whole : ℚ) := same
      have sign : 0 ≤ whole := by exact_mod_cast value ▸ nonneg
      obtain ⟨size, rfl⟩ := Int.eq_ofNat_of_zero_le sign
      exact ⟨by simpa using value, rfl⟩

/-- A float that is an integer of at most `2 ^ 53` in size has the decimal numeral of that integer as its text, as the
integer itself has, and both the float and its text are read as that integer. -/
theorem text_of_exact {number : Binary64} {whole : ℤ} (exact : number.exactValue? = some (whole : ℚ))
    (small : |whole| ≤ 2 ^ 53) :
    (Value.float number).text = toString whole ∧ (Value.int (Int64.ofInt whole)).text = toString whole ∧
      (Value.str (Value.float number).text).integer.toInt = whole ∧ (Value.float number).integer.toInt = whole := by
  obtain ⟨negative, magnitude, rfl, size, value, rfl⟩ := exists_parts exact
  have fits : size ≤ 2 ^ 53 := by
    cases negative with
    | true => simpa [applySign] using small
    | false => simpa [applySign] using small
  have range := abs_le.mp small
  have own : (Int64.ofInt (applySign negative size)).toInt = applySign negative size :=
    Int64.toInt_ofInt_of_le (by omega) (by omega)
  have clamped : (Int64.ofIntClamp (applySign negative size)).toInt = applySign negative size := by
    rw [toInt_ofIntClamp, Int64.toInt_minValue, Int64.toInt_maxValue]
    omega
  have written : (Value.float (.finite negative magnitude)).text = String.ofList (intDigits (applySign negative size)) := by
    rw [text, floatText_whole negative value fits]
  have read := readInteger_wholeText (wholeText_intDigits (applySign negative size)) Text.blanks_nil Text.blanks_nil
  rw [List.nil_append, List.append_nil] at read
  refine ⟨written.trans (ofList_intDigits _), ?_, ?_, ?_⟩
  · rw [text, own, ofList_intDigits]
  · rw [written, integer, String.toList_ofList, read, clamped]
  · have floor : magnitude.floor = size := by rw [Magnitude.floor_eq, value, Nat.floor_natCast]
    rw [integer, Binary64.truncate, floor]
    exact clamped

/-- The zero below zero, and the last integer on the far side of the bound. -/
theorem text_of_exact_ends :
    (Value.float (.finite true .zero)).text = "0" ∧
      (Value.float (.finite true ⟨4503599627370496, 1, by decide, by decide, by decide, by decide⟩)).text =
        "-9007199254740992" := by
  have zero : Binary64.exactValue? (.finite true .zero) = some ((0 : ℤ) : ℚ) := by simp [Binary64.exactValue?]
  have last : Binary64.exactValue? (.finite true ⟨4503599627370496, 1, by decide, by decide, by decide, by decide⟩) =
      some ((-9007199254740992 : ℤ) : ℚ) := by
    norm_num [Binary64.exactValue?, Magnitude.value]
  have first := text_of_exact zero (by norm_num)
  have second := text_of_exact last (by norm_num)
  exact ⟨first.1.trans rfl, second.1.trans rfl⟩

end Value

end TextTemplate
