import TextTemplate.Decimal.Shortest
import TextTemplate.Proofs.Decimal.Nearest

/-! Magnitudes and their exact values. A ratio is read as the magnitude whose value is the rounded
ratio, and has none only where that is too great for all of them. -/
namespace TextTemplate.Decimal

def Magnitude.value (magnitude : Magnitude) : ℚ := magnitude.significand * 2 ^ magnitude.exponent

variable {x : ℚ} {numerator denominator significand : ℕ} {exponent : ℤ} {magnitude : Magnitude}

namespace Magnitude

theorem normal (magnitude : Magnitude) : Normal magnitude.significand magnitude.exponent :=
  ⟨magnitude.bounded, magnitude.lowest, magnitude.normalised⟩

theorem value_nonneg (magnitude : Magnitude) : 0 ≤ magnitude.value :=
  mul_nonneg (Nat.cast_nonneg _) (two_zpow_pos _).le

@[simp] theorem value_zero : zero.value = 0 := by simp [value, zero]

theorem rounded_value (magnitude : Magnitude) : rounded magnitude.value = magnitude.value :=
  rounded_scaled _ _ magnitude.normal.bounded.le magnitude.lowest

theorem ofParts?_iff_parts :
    ofParts? significand exponent = some magnitude ↔
      magnitude.significand = significand ∧ magnitude.exponent = exponent := by
  simp only [ofParts?, Option.dite_none_right_eq_some, Option.some_inj]
  constructor
  · rintro ⟨_, _, _, _, rfl⟩
    exact ⟨rfl, rfl⟩
  · rintro ⟨rfl, rfl⟩
    exact ⟨magnitude.bounded, magnitude.lowest, magnitude.highest, magnitude.normalised, rfl⟩

/-- The magnitude with the parts of a normal form has its value, and no other has. -/
theorem ofParts?_eq_some (form : Normal significand exponent) :
    ofParts? significand exponent = some magnitude ↔ magnitude.value = significand * 2 ^ exponent := by
  rw [ofParts?_iff_parts]
  constructor
  · rintro ⟨rfl, rfl⟩
    rfl
  · exact magnitude.normal.unique form

theorem scaleRatio_eq (numerator : ℕ) (positive : 0 < denominator) (exponent : ℤ) :
    0 < (scaleRatio numerator denominator exponent).2 ∧
      ((scaleRatio numerator denominator exponent).1 : ℚ) / (scaleRatio numerator denominator exponent).2 =
        numerator / denominator / 2 ^ exponent := by
  unfold scaleRatio
  split
  · rename_i nonneg
    obtain ⟨count, rfl⟩ := Int.eq_ofNat_of_zero_le nonneg
    refine ⟨by simpa [Nat.shiftLeft_eq] using positive, ?_⟩
    rw [div_div, Nat.shiftLeft_eq]
    push_cast
    rfl
  · rename_i negative
    obtain ⟨count, same⟩ := Int.eq_ofNat_of_zero_le (by omega : 0 ≤ -exponent)
    obtain rfl : exponent = -count := by omega
    refine ⟨positive, ?_⟩
    rw [neg_neg, Int.toNat_natCast, Nat.shiftLeft_eq, zpow_neg, div_inv_eq_mul, zpow_natCast]
    push_cast
    ring

theorem log2_bounds {number : ℕ} (positive : 0 < number) :
    (2 : ℚ) ^ (number.log2 : ℤ) ≤ number ∧ (number : ℚ) < 2 ^ ((number.log2 : ℤ) + 1) := by
  constructor
  · rw [zpow_natCast]
    exact_mod_cast Nat.log2_self_le positive.ne'
  · have below := Nat.lt_log2_self (n := number)
    rw [← Nat.cast_succ, zpow_natCast]
    exact_mod_cast below

/-- The logarithm of a ratio is found from those of its parts, or is one less. -/
theorem log_ratio (top : 0 < numerator) (bottom : 0 < denominator) :
    Int.log 2 ((numerator : ℚ) / denominator) = numerator.log2 - denominator.log2 ∨
      Int.log 2 ((numerator : ℚ) / denominator) = numerator.log2 - denominator.log2 - 1 := by
  have unit : (0 : ℚ) < denominator := by exact_mod_cast bottom
  have own : (0 : ℚ) < (numerator : ℚ) / denominator := div_pos (by exact_mod_cast top) unit
  obtain ⟨topLow, topHigh⟩ := log2_bounds top
  obtain ⟨bottomLow, bottomHigh⟩ := log2_bounds bottom
  have above : (2 : ℚ) ^ ((numerator.log2 : ℤ) - denominator.log2 - 1) ≤ (numerator : ℚ) / denominator := by
    rw [le_div_iff₀ unit]
    calc (2 : ℚ) ^ ((numerator.log2 : ℤ) - denominator.log2 - 1) * denominator
        ≤ 2 ^ ((numerator.log2 : ℤ) - denominator.log2 - 1) * 2 ^ ((denominator.log2 : ℤ) + 1) :=
          mul_le_mul_of_nonneg_left bottomHigh.le (two_zpow_pos _).le
      _ = 2 ^ (numerator.log2 : ℤ) := by
          rw [← zpow_add₀ two_ne_zero]
          congr 1
          omega
      _ ≤ numerator := topLow
  have below : (numerator : ℚ) / denominator < 2 ^ ((numerator.log2 : ℤ) - denominator.log2 + 1) := by
    rw [div_lt_iff₀ unit]
    calc (numerator : ℚ) < 2 ^ ((numerator.log2 : ℤ) + 1) := topHigh
      _ = 2 ^ ((numerator.log2 : ℤ) - denominator.log2 + 1) * 2 ^ (denominator.log2 : ℤ) := by
          rw [← zpow_add₀ two_ne_zero]
          congr 1
          omega
      _ ≤ 2 ^ ((numerator.log2 : ℤ) - denominator.log2 + 1) * denominator :=
          mul_le_mul_of_nonneg_left bottomLow (two_zpow_pos _).le
  rw [zpow_le_iff own] at above
  rw [lt_zpow_iff own] at below
  omega

theorem exponentOf_eq (top : 0 < numerator) (bottom : 0 < denominator) :
    exponentOf numerator denominator = lastPlace (numerator / denominator) := by
  have own : (0 : ℚ) < (numerator : ℚ) / denominator := div_pos (by exact_mod_cast top) (by exact_mod_cast bottom)
  obtain ⟨unit, scaled⟩ := scaleRatio_eq numerator bottom ((numerator.log2 : ℤ) - denominator.log2 - 53)
  have short : (scaleRatio numerator denominator ((numerator.log2 : ℤ) - denominator.log2 - 53)).1 /
      (scaleRatio numerator denominator ((numerator.log2 : ℤ) - denominator.log2 - 53)).2 < 1 <<< 53 ↔
      Int.log 2 ((numerator : ℚ) / denominator) < numerator.log2 - denominator.log2 := by
    rw [Nat.div_lt_iff_lt_mul unit, ← lt_zpow_iff own, Nat.shiftLeft_eq, one_mul]
    have cast : (numerator : ℚ) / denominator / 2 ^ ((numerator.log2 : ℤ) - denominator.log2 - 53) < (2 ^ 53 : ℕ) ↔
        (numerator : ℚ) / denominator < 2 ^ ((numerator.log2 : ℤ) - denominator.log2) := by
      rw [div_lt_iff₀ (two_zpow_pos _), Nat.cast_pow, Nat.cast_two, zpow_shift]
      norm_num
    rw [← cast, ← scaled, div_lt_iff₀ (by exact_mod_cast unit)]
    exact_mod_cast Iff.rfl
  simp only [exponentOf, short, lastPlace]
  rcases log_ratio top bottom with same | same <;> rw [same] <;> split <;> omega

/-- A ratio has the magnitude whose value is the rounded ratio. It has none when that is too great for all of them. -/
theorem ofRatio?_eq_some (bottom : 0 < denominator) :
    ofRatio? numerator denominator = some magnitude ↔ magnitude.value = rounded (numerator / denominator) := by
  rcases numerator.eq_zero_or_pos with rfl | top
  · have none : ofRatio? 0 denominator = ofParts? 0 (-1074) := rfl
    have form : Normal 0 (-1074) := ⟨by norm_num, le_rfl, .inr rfl⟩
    rw [none, ofParts?_eq_some form, Nat.cast_zero, zero_mul, zero_div, rounded_zero]
  · have own : (0 : ℚ) < (numerator : ℚ) / denominator := div_pos (by exact_mod_cast top) (by exact_mod_cast bottom)
    obtain ⟨unit, scaled⟩ := scaleRatio_eq numerator bottom (lastPlace (numerator / denominator))
    have nearest := nearestEven_eq (scaleRatio numerator denominator (lastPlace (numerator / denominator))).1 unit
    rw [scaled] at nearest
    simp only [ofRatio?, top.ne', if_false, exponentOf_eq top bottom, nearest]
    rcases normal_rounded own with ⟨next, form, same⟩ | ⟨within, form⟩
    · rw [if_pos (by simpa using next), same]
      exact ofParts?_eq_some form
    · rw [if_neg (by simpa using within)]
      exact ofParts?_eq_some form

/-- A value that is not rounded beyond the greatest exponent has a magnitude. -/
theorem exists_value (positive : 0 < x) (range : rounded x < 2 ^ (1024 : ℤ)) :
    ∃ magnitude : Magnitude, magnitude.value = rounded x := by
  have fill {significand : ℕ} {exponent : ℤ} (form : Normal significand exponent)
      (same : rounded x = significand * 2 ^ exponent) : ∃ magnitude : Magnitude, magnitude.value = rounded x := by
    have highest : exponent ≤ 971 := by
      by_contra beyond
      have full : 2 ^ 52 ≤ significand := form.full.resolve_right (by omega)
      have great : (2 : ℚ) ^ (1024 : ℤ) ≤ significand * 2 ^ exponent := by
        calc (2 : ℚ) ^ (1024 : ℤ) ≤ 2 ^ ((52 : ℕ) + exponent) := zpow_mono (by omega)
          _ = 2 ^ 52 * 2 ^ exponent := (zpow_shift _ _).symm
          _ ≤ significand * 2 ^ exponent := mul_le_mul_of_nonneg_right (by exact_mod_cast full) (two_zpow_pos _).le
      linarith
    exact ⟨⟨significand, exponent, form.bounded, form.lowest, highest, form.full⟩, same.symm⟩
  rcases normal_rounded positive with ⟨_, form, same⟩ | ⟨_, form⟩
  · exact fill form same
  · exact fill form rfl

theorem ratio_eq (magnitude : Magnitude) : 0 < magnitude.ratio.2 ∧
    (magnitude.ratio.1 : ℚ) / magnitude.ratio.2 = magnitude.value := by
  unfold ratio value
  split
  · rename_i nonneg
    obtain ⟨count, same⟩ := Int.eq_ofNat_of_zero_le nonneg
    refine ⟨one_pos, ?_⟩
    rw [same, Int.toNat_natCast, Nat.shiftLeft_eq, zpow_natCast]
    push_cast
    ring
  · obtain ⟨count, same⟩ := Int.eq_ofNat_of_zero_le (by omega : 0 ≤ -magnitude.exponent)
    have power : magnitude.exponent = -count := by omega
    rw [power, neg_neg, Int.toNat_natCast, Nat.shiftLeft_eq, one_mul, zpow_neg, zpow_natCast, ← div_eq_mul_inv]
    exact ⟨by positivity, by push_cast; rfl⟩

theorem floor_eq (magnitude : Magnitude) : magnitude.floor = ⌊magnitude.value⌋₊ := by
  have quotient : magnitude.floor = magnitude.ratio.1 / magnitude.ratio.2 := by
    unfold floor ratio
    split
    · exact (Nat.div_one _).symm
    · rw [Nat.shiftRight_eq_div_pow, Nat.one_shiftLeft]
  rw [quotient, ← magnitude.ratio_eq.2, Nat.floor_div_eq_div]

theorem isWhole_iff : magnitude.isWhole = true ↔ ∃ number : ℕ, magnitude.value = number := by
  have divides : magnitude.isWhole = true ↔ magnitude.ratio.2 ∣ magnitude.ratio.1 := by
    unfold isWhole ratio
    split
    · rename_i nonneg
      simp [nonneg]
    · rename_i negative
      simp [negative, Nat.dvd_iff_mod_eq_zero]
  obtain ⟨bottom, value⟩ := magnitude.ratio_eq
  have unit : (magnitude.ratio.2 : ℚ) ≠ 0 := by exact_mod_cast bottom.ne'
  have multiple (number : ℕ) : magnitude.value = number ↔ magnitude.ratio.1 = number * magnitude.ratio.2 := by
    rw [← value, div_eq_iff unit]
    exact_mod_cast Iff.rfl
  simp only [divides, multiple, dvd_iff_exists_eq_mul_left]

end Magnitude

end TextTemplate.Decimal
