import Mathlib.Algebra.Order.Floor.Semifield
import Mathlib.Data.Int.Log
import Mathlib.Data.Rat.Floor
import Mathlib.Tactic.FieldSimp
import Mathlib.Tactic.Linarith
import Mathlib.Tactic.NormNum
import Mathlib.Tactic.Positivity
import TextTemplate.Decimal.Rounding

/-! Rounding to the nearest binary number as a function of the exact value alone. It keeps the
order of values and leaves what is representable as it is, and what it gives has one normal form. -/
namespace TextTemplate.Decimal

/-- The natural number nearest to a value that is not negative; halfway between two, the even one. -/
def roundEven (x : ℚ) : ℕ :=
  if x - ⌊x⌋₊ < 1 / 2 ∨ (x - ⌊x⌋₊ = 1 / 2 ∧ ⌊x⌋₊ % 2 = 0) then ⌊x⌋₊ else ⌊x⌋₊ + 1

/-- The power of two that the last binary place of a float near a value stands for. -/
def lastPlace (x : ℚ) : ℤ := max (-1074) (Int.log 2 x - 52)

/-- The value that a float has when it is the one nearest to an exact value. No value is too great. -/
def rounded (x : ℚ) : ℚ := roundEven (x / 2 ^ lastPlace x) * 2 ^ lastPlace x

variable {x y : ℚ} {numerator denominator significand : ℕ} {exponent : ℤ}

theorem floor_le_roundEven (x : ℚ) : ⌊x⌋₊ ≤ roundEven x ∧ roundEven x ≤ ⌊x⌋₊ + 1 := by
  unfold roundEven
  split <;> omega

theorem roundEven_mono (ordered : x ≤ y) : roundEven x ≤ roundEven y := by
  have floors : ⌊x⌋₊ ≤ ⌊y⌋₊ := Nat.floor_mono ordered
  rcases floors.lt_or_eq with below | same
  · have high := (floor_le_roundEven x).2
    have low := (floor_le_roundEven y).1
    omega
  · unfold roundEven
    rw [same]
    split
    · split <;> omega
    · rename_i up
      rw [if_neg]
      -- what is behind the middle stays behind it
      rintro (less | ⟨middle, even⟩)
      · exact up (.inl (by linarith))
      · rcases ordered.lt_or_eq with below | equal
        · exact up (.inl (by linarith))
        · exact up (.inr ⟨by linarith, even⟩)

theorem roundEven_near {number : ℕ} (above : number ≤ x) (near : x < number + 1 / 2) : roundEven x = number := by
  have nonneg : 0 ≤ x := number.cast_nonneg.trans above
  have floor : ⌊x⌋₊ = number := (Nat.floor_eq_iff nonneg).mpr ⟨above, by linarith⟩
  rw [roundEven, floor, if_pos (.inl (by linarith))]

@[simp] theorem roundEven_natCast (number : ℕ) : roundEven number = number :=
  roundEven_near le_rfl (by linarith)

theorem roundEven_le {number : ℕ} (below : x ≤ number) : roundEven x ≤ number :=
  (roundEven_mono below).trans_eq (roundEven_natCast number)

theorem le_roundEven {number : ℕ} (above : number ≤ x) : number ≤ roundEven x :=
  (roundEven_natCast number).symm.trans_le (roundEven_mono above)

theorem nearestEven_eq (numerator : ℕ) (positive : 0 < denominator) :
    nearestEven numerator denominator = roundEven (numerator / denominator) := by
  have unit : (0 : ℚ) < denominator := by exact_mod_cast positive
  have split : (numerator : ℚ) / denominator =
      (numerator / denominator : ℕ) + (numerator % denominator : ℕ) / denominator := by
    rw [eq_comm, ← eq_sub_iff_add_eq', div_eq_iff unit.ne', sub_mul, div_mul_cancel₀ _ unit.ne', eq_sub_iff_add_eq']
    exact_mod_cast Nat.div_add_mod' numerator denominator
  have fraction : (numerator : ℚ) / denominator - (numerator / denominator : ℕ) =
      (numerator % denominator : ℕ) / denominator := by linarith
  have below : ((numerator % denominator : ℕ) : ℚ) / denominator < 1 / 2 ↔
      2 * (numerator % denominator) < denominator := by
    rw [div_lt_div_iff₀ unit two_pos, one_mul, mul_comm]
    exact_mod_cast Iff.rfl
  have middle : ((numerator % denominator : ℕ) : ℚ) / denominator = 1 / 2 ↔
      2 * (numerator % denominator) = denominator := by
    rw [div_eq_div_iff unit.ne' two_ne_zero, one_mul, mul_comm]
    exact_mod_cast Iff.rfl
  simp only [nearestEven, roundEven, Nat.floor_div_eq_div, fraction, below, middle]
  split <;> split <;> omega

theorem two_zpow_pos (exponent : ℤ) : (0 : ℚ) < 2 ^ exponent := zpow_pos two_pos exponent

theorem zpow_shift (count : ℕ) (exponent : ℤ) : (2 : ℚ) ^ count * 2 ^ exponent = 2 ^ (count + exponent) := by
  rw [zpow_add₀ two_ne_zero, zpow_natCast]

theorem zpow_mono {first second : ℤ} (ordered : first ≤ second) : (2 : ℚ) ^ first ≤ 2 ^ second :=
  zpow_le_zpow_right₀ one_le_two ordered

theorem lt_zpow_iff (positive : 0 < x) : x < 2 ^ exponent ↔ Int.log 2 x < exponent :=
  Int.lt_zpow_iff_log_lt one_lt_two positive

theorem zpow_le_iff (positive : 0 < x) : 2 ^ exponent ≤ x ↔ exponent ≤ Int.log 2 x :=
  Int.zpow_le_iff_le_log one_lt_two positive

theorem lastPlace_mono (positive : 0 < x) (ordered : x ≤ y) : lastPlace x ≤ lastPlace y := by
  have logs := Int.log_mono_right (b := 2) positive ordered
  unfold lastPlace
  omega

theorem scaled_lt (positive : 0 < x) : x / 2 ^ lastPlace x < 2 ^ 53 := by
  rw [div_lt_iff₀ (two_zpow_pos _), zpow_shift, lt_zpow_iff positive, lastPlace]
  omega

theorem le_scaled (positive : 0 < x) (normal : -1074 < lastPlace x) : 2 ^ 52 ≤ x / 2 ^ lastPlace x := by
  rw [le_div_iff₀ (two_zpow_pos _), zpow_shift, zpow_le_iff positive]
  unfold lastPlace at normal ⊢
  omega

theorem rounded_nonneg (x : ℚ) : 0 ≤ rounded x := by
  have place := two_zpow_pos (lastPlace x)
  unfold rounded
  positivity

@[simp] theorem rounded_zero : rounded 0 = 0 := by
  have none : roundEven 0 = 0 := by simpa using roundEven_natCast 0
  rw [rounded, zero_div, none, Nat.cast_zero, zero_mul]

theorem rounded_mono (nonneg : 0 ≤ x) (ordered : x ≤ y) : rounded x ≤ rounded y := by
  rcases nonneg.eq_or_lt with rfl | positive
  · rw [rounded_zero]
    exact rounded_nonneg y
  have places := lastPlace_mono positive ordered
  rcases places.lt_or_eq with below | same
  · -- the greater value has a full significand, in a place where that is more than the other can have
    have full : (2 ^ 52 : ℕ) ≤ roundEven (y / 2 ^ lastPlace y) :=
      le_roundEven (by exact_mod_cast le_scaled (positive.trans_le ordered) (by unfold lastPlace at below ⊢; omega))
    have short : roundEven (x / 2 ^ lastPlace x) ≤ (2 ^ 53 : ℕ) :=
      roundEven_le (by exact_mod_cast (scaled_lt positive).le)
    calc rounded x ≤ (2 ^ 53 : ℕ) * 2 ^ lastPlace x := by
          exact mul_le_mul_of_nonneg_right (by exact_mod_cast short) (two_zpow_pos _).le
      _ = 2 ^ ((53 : ℕ) + lastPlace x) := by rw [← zpow_shift]; norm_num
      _ ≤ 2 ^ ((52 : ℕ) + lastPlace y) := zpow_mono (by omega)
      _ = (2 ^ 52 : ℕ) * 2 ^ lastPlace y := by rw [← zpow_shift]; norm_num
      _ ≤ rounded y := mul_le_mul_of_nonneg_right (by exact_mod_cast full) (two_zpow_pos _).le
  · unfold rounded
    rw [same]
    have place := two_zpow_pos (lastPlace y)
    have scaled := roundEven_mono (div_le_div_of_nonneg_right ordered place.le)
    exact mul_le_mul_of_nonneg_right (by exact_mod_cast scaled) place.le

/-- A value between two that are rounded alike is rounded like them. -/
theorem rounded_between {low high : ℚ} (nonneg : 0 ≤ low) (above : low ≤ x) (below : x ≤ high)
    (lowest : rounded low = y) (highest : rounded high = y) : rounded x = y :=
  le_antisymm ((rounded_mono (nonneg.trans above) below).trans_eq highest)
    (lowest.symm.trans_le (rounded_mono nonneg above))

theorem lastPlace_le (positive : 0 < significand) (fits : significand ≤ 2 ^ 53) (least : -1074 ≤ exponent) :
    lastPlace (significand * 2 ^ exponent) ≤ exponent ∨
      significand = 2 ^ 53 ∧ lastPlace (significand * 2 ^ exponent) = exponent + 1 := by
  have own : (0 : ℚ) < significand * 2 ^ exponent := mul_pos (by exact_mod_cast positive) (two_zpow_pos _)
  rcases fits.lt_or_eq with short | rfl
  · left
    have below : (significand : ℚ) * 2 ^ exponent < 2 ^ ((53 : ℕ) + exponent) := by
      rw [← zpow_shift]
      exact mul_lt_mul_of_pos_right (by exact_mod_cast short) (two_zpow_pos _)
    rw [lt_zpow_iff own] at below
    unfold lastPlace
    omega
  · right
    have power : ((2 ^ 53 : ℕ) : ℚ) * 2 ^ exponent = ((2 : ℕ) : ℚ) ^ ((53 : ℕ) + exponent) := by
      rw [Nat.cast_two, ← zpow_shift, Nat.cast_pow, Nat.cast_two]
    rw [lastPlace, power, Int.log_zpow one_lt_two]
    omega

theorem lastPlace_of_bounds (least : -1074 ≤ exponent) (low : 2 ^ ((52 : ℕ) + exponent) ≤ x)
    (high : x < 2 ^ ((53 : ℕ) + exponent)) : lastPlace x = exponent := by
  have positive : 0 < x := (two_zpow_pos _).trans_le low
  rw [zpow_le_iff positive] at low
  rw [lt_zpow_iff positive] at high
  unfold lastPlace
  omega

theorem lastPlace_natCast {number places : ℕ} (low : 2 ^ (52 + places) ≤ number) (high : number < 2 ^ (53 + places)) :
    lastPlace number = places := by
  apply lastPlace_of_bounds (by omega)
  · rw [← Nat.cast_add, zpow_natCast]
    exact_mod_cast low
  · rw [← Nat.cast_add, zpow_natCast]
    exact_mod_cast high

/-- A natural number that is less than half a unit of its last place above a whole number of units is rounded down. -/
theorem rounded_down {number : ℕ} (units places : ℕ) (low : 2 ^ (52 + places) ≤ number)
    (high : number < 2 ^ (53 + places)) (above : units * 2 ^ places ≤ number) (near : 2 * number < 2 * (units * 2 ^ places) + 2 ^ places) :
    rounded number = (units * 2 ^ places : ℕ) := by
  have unit : (0 : ℚ) < 2 ^ places := by positivity
  have least : (units : ℚ) * 2 ^ places ≤ number := by exact_mod_cast above
  have most : 2 * (number : ℚ) < 2 * (units * 2 ^ places) + 2 ^ places := by exact_mod_cast near
  have nearest : roundEven (number / 2 ^ places) = units := by
    apply roundEven_near
    · rwa [le_div_iff₀ unit]
    · rw [div_lt_iff₀ unit]
      linarith
  rw [rounded, lastPlace_natCast low high, zpow_natCast, nearest]
  push_cast
  rfl

theorem rounded_of_multiple (number : ℕ) (whole : x = number * 2 ^ lastPlace x) : rounded x = x := by
  have scaled : x / 2 ^ lastPlace x = number := by
    rw [div_eq_iff (two_zpow_pos _).ne']
    exact whole
  rw [rounded, scaled, roundEven_natCast]
  exact whole.symm

/-- Whatever a significand and an exponent can express is not changed. -/
theorem rounded_scaled (significand : ℕ) (exponent : ℤ) (fits : significand ≤ 2 ^ 53) (least : -1074 ≤ exponent) :
    rounded (significand * 2 ^ exponent) = significand * 2 ^ exponent := by
  rcases significand.eq_zero_or_pos with rfl | positive
  · simp
  rcases lastPlace_le positive fits least with within | ⟨rfl, same⟩
  · obtain ⟨count, rise⟩ := Int.le.dest within
    apply rounded_of_multiple (significand * 2 ^ count)
    rw [Nat.cast_mul, Nat.cast_pow, Nat.cast_two, mul_assoc, zpow_shift, add_comm (count : ℤ), rise]
  · apply rounded_of_multiple (2 ^ 52)
    rw [same, Nat.cast_pow, Nat.cast_pow, Nat.cast_two, zpow_shift, zpow_shift]
    congr 1
    omega

theorem rounded_natCast {number : ℕ} (fits : number ≤ 2 ^ 53) : rounded number = number := by
  have own := rounded_scaled number 0 fits (by decide)
  rwa [zpow_zero, mul_one] at own

/-- A significand that is full, unless the exponent is the least one. -/
structure Normal (significand : ℕ) (exponent : ℤ) : Prop where
  bounded : significand < 2 ^ 53
  lowest : -1074 ≤ exponent
  full : 2 ^ 52 ≤ significand ∨ exponent = -1074

theorem Normal.lastPlace_eq (normal : Normal significand exponent) (positive : 0 < significand) :
    lastPlace (significand * 2 ^ exponent) = exponent := by
  rcases normal.full with full | least
  · apply lastPlace_of_bounds normal.lowest
    · rw [← zpow_shift]
      exact mul_le_mul_of_nonneg_right (by exact_mod_cast full) (two_zpow_pos _).le
    · rw [← zpow_shift]
      exact mul_lt_mul_of_pos_right (by exact_mod_cast normal.bounded) (two_zpow_pos _)
  · rcases lastPlace_le positive normal.bounded.le normal.lowest with within | ⟨next, _⟩
    · rw [least] at within ⊢
      exact le_antisymm within (le_max_left _ _)
    · exact absurd next normal.bounded.ne

theorem Normal.exponent_of_zero (normal : Normal 0 exponent) : exponent = -1074 := by
  rcases normal.full with full | least
  · omega
  · exact least

theorem Normal.unique {other : ℕ} {power : ℤ} (first : Normal significand exponent) (second : Normal other power)
    (same : (significand : ℚ) * 2 ^ exponent = other * 2 ^ power) : significand = other ∧ exponent = power := by
  have zeros : significand = 0 ↔ other = 0 := by
    have values : (significand : ℚ) * 2 ^ exponent = 0 ↔ (other : ℚ) * 2 ^ power = 0 := by rw [same]
    simpa [(two_zpow_pos _).ne'] using values
  rcases significand.eq_zero_or_pos with rfl | positive
  · obtain rfl : other = 0 := zeros.mp rfl
    exact ⟨rfl, by rw [first.exponent_of_zero, second.exponent_of_zero]⟩
  · have nonzero : other ≠ 0 := fun none => positive.ne' (zeros.mpr none)
    obtain rfl : exponent = power := by
      rw [← first.lastPlace_eq positive, ← second.lastPlace_eq (Nat.pos_of_ne_zero nonzero), same]
    refine ⟨?_, rfl⟩
    exact_mod_cast mul_right_cancel₀ (two_zpow_pos exponent).ne' same

/-- The normal form of a rounded value. A significand that is rounded up to the next power of two goes to the next place. -/
theorem normal_rounded (positive : 0 < x) :
    (roundEven (x / 2 ^ lastPlace x) = 2 ^ 53 ∧ Normal (2 ^ 52) (lastPlace x + 1) ∧
      rounded x = (2 ^ 52 : ℕ) * 2 ^ (lastPlace x + 1)) ∨
    roundEven (x / 2 ^ lastPlace x) ≠ 2 ^ 53 ∧ Normal (roundEven (x / 2 ^ lastPlace x)) (lastPlace x) := by
  have lowest : -1074 ≤ lastPlace x := le_max_left _ _
  have fits : roundEven (x / 2 ^ lastPlace x) ≤ 2 ^ 53 := roundEven_le (by exact_mod_cast (scaled_lt positive).le)
  by_cases next : roundEven (x / 2 ^ lastPlace x) = 2 ^ 53
  · refine .inl ⟨next, ⟨by norm_num, by omega, .inl le_rfl⟩, ?_⟩
    rw [rounded, next, Nat.cast_pow, Nat.cast_pow, Nat.cast_two, zpow_shift, zpow_shift]
    congr 1
    omega
  · refine .inr ⟨next, by omega, lowest, ?_⟩
    rcases lowest.lt_or_eq with above | least
    · exact .inl (le_roundEven (by exact_mod_cast le_scaled positive above))
    · exact .inr least.symm

end TextTemplate.Decimal
