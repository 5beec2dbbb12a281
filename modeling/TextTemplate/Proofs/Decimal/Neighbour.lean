import TextTemplate.Proofs.Decimal.Magnitude

/-! The neighbours of a value on a decimal grid, against rounding. Since rounding keeps the order of values,
a grid has a point that reads back as the value exactly when one of the two neighbours does. The neighbour that is
taken is the nearest of all points that read back. -/
namespace TextTemplate.Decimal

/-- A decimal is at most as far from a value as another, and greater where both are equally far. -/
def Nearer (value decimal other : ℚ) : Prop :=
  |value - decimal| ≤ |value - other| ∧ (|value - decimal| = |value - other| → other ≤ decimal)

theorem ten_zpow_pos (exponent : ℤ) : (0 : ℚ) < 10 ^ exponent := zpow_pos (by norm_num) exponent

namespace Magnitude

variable {magnitude : Magnitude} {tie : Tie} {count : ℕ} {found : ℕ × ℤ}

theorem decimalRatio_eq (digits : ℕ) (exponent : ℤ) : 0 < (decimalRatio digits exponent).2 ∧
    ((decimalRatio digits exponent).1 : ℚ) / (decimalRatio digits exponent).2 = digits * 10 ^ exponent := by
  have power (count : ℕ) : Nat.pow 10 count = 10 ^ count := rfl
  unfold decimalRatio
  split
  · rename_i nonneg
    obtain ⟨count, rfl⟩ := Int.eq_ofNat_of_zero_le nonneg
    refine ⟨one_pos, ?_⟩
    rw [Int.toNat_natCast, power, zpow_natCast]
    push_cast
    ring
  · obtain ⟨count, same⟩ := Int.eq_ofNat_of_zero_le (by omega : 0 ≤ -exponent)
    obtain rfl : exponent = -count := by omega
    rw [neg_neg, Int.toNat_natCast, power, zpow_neg, zpow_natCast, ← div_eq_mul_inv]
    exact ⟨by positivity, by push_cast; rfl⟩

theorem readsAs_iff {digits : ℕ} {exponent : ℤ} :
    magnitude.readsAs digits exponent = true ↔ rounded (digits * 10 ^ exponent) = magnitude.value := by
  obtain ⟨unit, ratio⟩ := decimalRatio_eq digits exponent
  rw [readsAs, beq_iff_eq, ofRatio?_eq_some unit, ratio, eq_comm]

/-- The exponent of the grid on which the decimals around a magnitude have so many digits. -/
def grid (magnitude : Magnitude) (count : ℕ) : ℤ := magnitude.leadingExponent - (count - 1 : ℕ)

def below (magnitude : Magnitude) (exponent : ℤ) : ℕ := ⌊magnitude.value / 10 ^ exponent⌋₊

theorem below_le (magnitude : Magnitude) (exponent : ℤ) :
    magnitude.below exponent * (10 : ℚ) ^ exponent ≤ magnitude.value := by
  rw [← le_div_iff₀ (ten_zpow_pos exponent)]
  exact Nat.floor_le (div_nonneg magnitude.value_nonneg (ten_zpow_pos exponent).le)

theorem lt_above (magnitude : Magnitude) (exponent : ℤ) :
    magnitude.value < (magnitude.below exponent + 1 : ℕ) * (10 : ℚ) ^ exponent := by
  rw [← div_lt_iff₀ (ten_zpow_pos exponent), Nat.cast_succ]
  exact Nat.lt_floor_add_one _

theorem above_eq (magnitude : Magnitude) (exponent : ℤ) :
    ((magnitude.below exponent + 1 : ℕ) : ℚ) * 10 ^ exponent = magnitude.below exponent * 10 ^ exponent + 10 ^ exponent := by
  push_cast
  ring

/-- The parts of the value and of one unit of a grid, as natural numbers in one proportion. -/
theorem proportion (magnitude : Magnitude) (exponent : ℤ) :
    0 < magnitude.ratio.2 * (decimalRatio 1 exponent).1 ∧
      ((magnitude.ratio.1 * (decimalRatio 1 exponent).2 : ℕ) : ℚ) /
        (magnitude.ratio.2 * (decimalRatio 1 exponent).1 : ℕ) = magnitude.value / 10 ^ exponent := by
  obtain ⟨bottom, value⟩ := magnitude.ratio_eq
  obtain ⟨unit, power⟩ := decimalRatio_eq 1 exponent
  rw [Nat.cast_one, one_mul] at power
  have step : 0 < (decimalRatio 1 exponent).1 := by
    apply Nat.pos_of_ne_zero
    intro zero
    rw [zero, Nat.cast_zero, zero_div] at power
    exact (ten_zpow_pos exponent).ne power
  refine ⟨Nat.mul_pos bottom step, ?_⟩
  rw [← value, ← power, Nat.cast_mul, Nat.cast_mul, div_div_div_eq]

theorem below_eq (magnitude : Magnitude) (exponent : ℤ) :
    magnitude.ratio.1 * (decimalRatio 1 exponent).2 / (magnitude.ratio.2 * (decimalRatio 1 exponent).1) =
      magnitude.below exponent := by
  rw [below, ← (proportion magnitude exponent).2, Nat.floor_div_eq_div]

/-- Whether what is left above the neighbour below is half a unit or more. -/
theorem upward_iff (magnitude : Magnitude) (exponent : ℤ) :
    magnitude.ratio.2 * (decimalRatio 1 exponent).1 ≤
        2 * (magnitude.ratio.1 * (decimalRatio 1 exponent).2 % (magnitude.ratio.2 * (decimalRatio 1 exponent).1)) ↔
      10 ^ exponent ≤ 2 * (magnitude.value - magnitude.below exponent * 10 ^ exponent) := by
  obtain ⟨positive, same⟩ := proportion magnitude exponent
  have whole := Nat.div_add_mod (magnitude.ratio.1 * (decimalRatio 1 exponent).2)
    (magnitude.ratio.2 * (decimalRatio 1 exponent).1)
  rw [below_eq] at whole
  generalize magnitude.ratio.1 * (decimalRatio 1 exponent).2 = scaled at same whole ⊢
  generalize magnitude.ratio.2 * (decimalRatio 1 exponent).1 = unit at positive same whole ⊢
  have place : (0 : ℚ) < unit := by exact_mod_cast positive
  have power := ten_zpow_pos exponent
  have value : magnitude.value = (scaled : ℚ) / unit * 10 ^ exponent := by
    rw [same, div_mul_cancel₀ _ power.ne']
  have rest : magnitude.value - magnitude.below exponent * 10 ^ exponent =
      ((scaled % unit : ℕ) : ℚ) / unit * 10 ^ exponent := by
    have cast : (unit : ℚ) * magnitude.below exponent + (scaled % unit : ℕ) = scaled := by exact_mod_cast whole
    rw [value, ← cast]
    field_simp
    ring
  rw [rest, ← mul_assoc, le_mul_iff_one_le_left power, ← mul_div_assoc, one_le_div place]
  exact_mod_cast Iff.rfl

theorem point_mono {first second : ℕ} (ordered : first ≤ second) (exponent : ℤ) :
    (first : ℚ) * 10 ^ exponent ≤ second * 10 ^ exponent :=
  mul_le_mul_of_nonneg_right (by exact_mod_cast ordered) (ten_zpow_pos exponent).le

/-- If a point of the grid reads back, so does the neighbour on its side. -/
theorem neighbour_reads {exponent : ℤ} {digits : ℕ} (reads : rounded (digits * 10 ^ exponent) = magnitude.value) :
    (digits ≤ magnitude.below exponent ∧ magnitude.readsAs (magnitude.below exponent) exponent = true) ∨
      magnitude.below exponent + 1 ≤ digits ∧ magnitude.readsAs (magnitude.below exponent + 1) exponent = true := by
  simp only [readsAs_iff]
  have power := ten_zpow_pos exponent
  rcases Nat.lt_or_ge (magnitude.below exponent) digits with above | below
  · refine .inr ⟨above, ?_⟩
    exact rounded_between magnitude.value_nonneg (magnitude.lt_above exponent).le (point_mono above exponent)
      magnitude.rounded_value reads
  · refine .inl ⟨below, ?_⟩
    exact rounded_between (by positivity) (point_mono below exponent) (magnitude.below_le exponent) reads
      magnitude.rounded_value

theorem neighbour?_eq_none (missing : magnitude.neighbour? tie count = none) (digits : ℕ) :
    rounded (digits * 10 ^ magnitude.grid count) ≠ magnitude.value := by
  intro reads
  have near := neighbour_reads reads
  unfold grid at near
  simp only [neighbour?, below_eq] at missing
  generalize magnitude.leadingExponent - ((count - 1 : ℕ) : ℤ) = exponent at missing near
  split at missing
  · cases missing
  · cases missing
  · cases missing
  · rename_i low high
    simp [low, high] at near

theorem nearer_below {exponent : ℤ} {other : ℕ} (under : other ≤ magnitude.below exponent) :
    Nearer magnitude.value (magnitude.below exponent * 10 ^ exponent) (other * 10 ^ exponent) := by
  have low := magnitude.below_le exponent
  have lower := point_mono under exponent
  rw [Nearer, abs_of_nonneg (by linarith), abs_of_nonneg (by linarith)]
  exact ⟨by linarith, fun _ => lower⟩

theorem nearer_above {exponent : ℤ} {other : ℕ} (beyond : magnitude.below exponent + 1 ≤ other) :
    Nearer magnitude.value ((magnitude.below exponent + 1 : ℕ) * 10 ^ exponent) (other * 10 ^ exponent) := by
  have high := magnitude.lt_above exponent
  have higher := point_mono beyond exponent
  rw [Nearer, abs_of_nonpos (by linarith), abs_of_nonpos (by linarith)]
  exact ⟨by linarith, fun same => by linarith⟩

/-- Half a unit or more above the lower neighbour, the upper one is nearer than all points under it. -/
theorem nearer_up {exponent : ℤ} {other : ℕ} (under : other ≤ magnitude.below exponent)
    (upward : 10 ^ exponent ≤ 2 * (magnitude.value - magnitude.below exponent * 10 ^ exponent)) :
    Nearer magnitude.value ((magnitude.below exponent + 1 : ℕ) * 10 ^ exponent) (other * 10 ^ exponent) := by
  have low := magnitude.below_le exponent
  have high := magnitude.lt_above exponent
  have lower := point_mono under exponent
  rw [above_eq] at high ⊢
  rw [Nearer, abs_of_nonpos (by linarith), abs_of_nonneg (by linarith)]
  exact ⟨by linarith, fun _ => by linarith⟩

theorem nearer_down {exponent : ℤ} {other : ℕ} (beyond : magnitude.below exponent + 1 ≤ other)
    (downward : ¬ 10 ^ exponent ≤ 2 * (magnitude.value - magnitude.below exponent * 10 ^ exponent)) :
    Nearer magnitude.value (magnitude.below exponent * 10 ^ exponent) (other * 10 ^ exponent) := by
  have low := magnitude.below_le exponent
  have high := magnitude.lt_above exponent
  have higher := point_mono beyond exponent
  rw [above_eq] at high higher
  rw [Nearer, abs_of_nonneg (by linarith), abs_of_nonpos (by linarith)]
  exact ⟨by linarith, fun same => by linarith⟩

/-- The neighbour that is taken reads back, and of all points of the grid that do it is the nearest. -/
theorem neighbour?_eq_some (taken : magnitude.neighbour? .up count = some found) :
    found.2 = magnitude.grid count ∧ rounded (found.1 * 10 ^ magnitude.grid count) = magnitude.value ∧
      ∀ other : ℕ, rounded (other * 10 ^ magnitude.grid count) = magnitude.value →
        Nearer magnitude.value (found.1 * 10 ^ magnitude.grid count) (other * 10 ^ magnitude.grid count) := by
  unfold grid
  simp only [neighbour?, below_eq, upward_iff, decide_eq_true_eq] at taken
  generalize magnitude.leadingExponent - ((count - 1 : ℕ) : ℤ) = exponent at taken ⊢
  split at taken
  · rename_i low high
    cases taken
    split
    · rename_i upward
      refine ⟨rfl, readsAs_iff.mp high, fun other reads => ?_⟩
      rcases neighbour_reads reads with ⟨under, _⟩ | ⟨beyond, _⟩
      · exact nearer_up under upward
      · exact nearer_above beyond
    · rename_i downward
      refine ⟨rfl, readsAs_iff.mp low, fun other reads => ?_⟩
      rcases neighbour_reads reads with ⟨under, _⟩ | ⟨beyond, _⟩
      · exact nearer_below under
      · exact nearer_down beyond downward
  · rename_i low high
    cases taken
    refine ⟨rfl, readsAs_iff.mp low, fun other reads => ?_⟩
    rcases neighbour_reads reads with ⟨under, _⟩ | ⟨_, reads⟩
    · exact nearer_below under
    · rw [high] at reads
      cases reads
  · rename_i low high
    cases taken
    refine ⟨rfl, readsAs_iff.mp high, fun other reads => ?_⟩
    rcases neighbour_reads reads with ⟨_, reads⟩ | ⟨beyond, _⟩
    · rw [low] at reads
      cases reads
    · exact nearer_above beyond
  · cases taken

end Magnitude

end TextTemplate.Decimal
