import TextTemplate.Decimal.Layout
import TextTemplate.Proofs.Decimal.Neighbour

/-! The fewest digits of a float whose last digit stands at the units or before them. The scan over the grids
finds the decimal with the most zeros at its end that reads back, and of several the nearest; there is one such
decimal. -/
namespace TextTemplate.Decimal

/-- The number to which a float is shortened. It reads back, no number with more zeros at its end does, and none with
as many that does is nearer. -/
structure Shortens (value : ℚ) (zeros number : ℕ) : Prop where
  ends : 10 ^ zeros ∣ number
  reads : rounded number = value
  fewest : ∀ other : ℕ, 10 ^ (zeros + 1) ∣ other → rounded other ≠ value
  nearest : ∀ other : ℕ, 10 ^ zeros ∣ other → rounded other = value → Nearer value number other

variable {value x y : ℚ} {zeros zeros' number number' first second : ℕ} {a b : ℤ}

theorem Nearer.antisymm (first : Nearer value number number') (second : Nearer value number' number) : number = number' := by
  have same := le_antisymm first.1 second.1
  have up := first.2 same
  have down := second.2 same.symm
  exact_mod_cast le_antisymm down up

theorem Shortens.zeros_le (first : Shortens value zeros number) (second : Shortens value zeros' number') :
    zeros' ≤ zeros := by
  by_contra more
  exact first.fewest number' ((pow_dvd_pow 10 (by omega)).trans second.ends) second.reads

theorem Shortens.unique (first : Shortens value zeros number) (second : Shortens value zeros' number') :
    number = number' := by
  obtain rfl : zeros = zeros' := le_antisymm (second.zeros_le first) (first.zeros_le second)
  exact (first.nearest number' second.ends second.reads).antisymm (second.nearest number first.ends first.reads)

/-- Powers of two bases are in order only if their exponents are, scaled by a ratio on the right side of the logarithms. -/
theorem exponents_lt (base : 1 < x) (nonzero : second ≠ 0) (scale : (y ^ second) ^ b ≤ (x ^ first) ^ b)
    (less : x ^ a < y ^ b) : second * a < first * b := by
  by_contra many
  have positive : 0 < x := one_pos.trans base
  have powers : (y ^ b) ^ second ≤ (x ^ a) ^ second := by
    calc (y ^ b) ^ second = (y ^ second) ^ b := by rw [← zpow_natCast, ← zpow_natCast, zpow_comm]
      _ ≤ (x ^ first) ^ b := scale
      _ = x ^ (first * b) := by rw [← zpow_natCast, ← zpow_mul]
      _ ≤ x ^ (second * a) := zpow_le_zpow_right₀ base.le (by omega)
      _ = (x ^ a) ^ second := by rw [mul_comm, zpow_mul, zpow_natCast]
  exact (pow_lt_pow_left₀ less (zpow_pos positive a).le nonzero).not_ge powers

theorem zpow_anti_left (positive : 0 < x) (ordered : x ≤ y) (below : b ≤ 0) : y ^ b ≤ x ^ b := by
  obtain ⟨count, rfl⟩ := Int.exists_eq_neg_ofNat below
  rw [zpow_neg, zpow_neg, zpow_natCast, zpow_natCast]
  exact inv_anti₀ (pow_pos positive count) (pow_le_pow_left₀ positive.le ordered count)

/-- The guess that is made of the binary logarithm for the decimal one is at most one off. -/
theorem guess_near {log leading : ℤ} (low : (10 : ℚ) ^ leading < 2 ^ (log + 1))
    (high : (2 : ℚ) ^ log < 10 ^ (leading + 1)) (least : -1074 ≤ log) (most : log ≤ 1023) :
    leading - 1 ≤ log * 30103 / 100000 ∧ log * 30103 / 100000 ≤ leading + 1 := by
  -- the logarithm of two to the base ten lies between 59 / 196 and 28 / 93
  have steeper : (2 : ℚ) ^ 93 ≤ 10 ^ 28 := by norm_num
  have flatter : (10 : ℚ) ^ 59 ≤ 2 ^ 196 := by norm_num
  have ten : (1 : ℚ) < 10 := by norm_num
  have above : 0 ≤ leading + 1 ∧ 59 * log < 196 * (leading + 1) ∨ leading + 1 < 0 ∧ 28 * log < 93 * (leading + 1) := by
    rcases le_or_gt 0 (leading + 1) with nonneg | negative
    · exact .inl ⟨nonneg, exponents_lt one_lt_two (by decide) (zpow_le_zpow_left₀ nonneg (by positivity) flatter) high⟩
    · exact .inr ⟨negative, exponents_lt one_lt_two (by decide) (zpow_anti_left (by positivity) steeper negative.le) high⟩
  have below : 0 ≤ log + 1 ∧ 93 * leading < 28 * (log + 1) ∨ log + 1 < 0 ∧ 196 * leading < 59 * (log + 1) := by
    rcases le_or_gt 0 (log + 1) with nonneg | negative
    · exact .inl ⟨nonneg, exponents_lt ten (by decide) (zpow_le_zpow_left₀ nonneg (by positivity) steeper) low⟩
    · exact .inr ⟨negative, exponents_lt ten (by decide) (zpow_anti_left (by positivity) flatter negative.le) low⟩
  omega

theorem findSome?_range {answer : ℕ → Option α} {count : ℕ} {found : α}
    (success : (List.range count).findSome? answer = some found) :
    ∃ first, answer first = some found ∧ ∀ earlier < first, answer earlier = none := by
  obtain ⟨front, first, back, split, own, none⟩ := List.findSome?_eq_some_iff.mp success
  rw [List.range_eq_range', List.range'_eq_append_iff] at split
  obtain ⟨length, _, rfl, rest⟩ := split
  obtain ⟨rfl, _⟩ := List.range'_eq_cons_iff.mp rest.symm
  refine ⟨_, own, fun earlier before => none earlier ?_⟩
  rw [List.mem_range']
  exact ⟨earlier, by omega, by omega⟩

namespace Magnitude

variable {magnitude : Magnitude}

theorem value_pos (positive : 0 < magnitude.significand) : 0 < magnitude.value :=
  mul_pos (by exact_mod_cast positive) (two_zpow_pos _)

theorem significand_pos (positive : 0 < magnitude.value) : 0 < magnitude.significand := by
  apply Nat.pos_of_ne_zero
  intro zero
  rw [value, zero, Nat.cast_zero, zero_mul] at positive
  exact lt_irrefl 0 positive

theorem log_value (positive : 0 < magnitude.significand) :
    Int.log 2 magnitude.value = magnitude.significand.log2 + magnitude.exponent := by
  obtain ⟨low, high⟩ := log2_bounds positive
  have power := two_zpow_pos magnitude.exponent
  have above : (2 : ℚ) ^ ((magnitude.significand.log2 : ℤ) + magnitude.exponent) ≤ magnitude.value := by
    rw [zpow_add₀ two_ne_zero]
    exact mul_le_mul_of_nonneg_right low power.le
  have below : magnitude.value < 2 ^ ((magnitude.significand.log2 : ℤ) + 1 + magnitude.exponent) := by
    rw [zpow_add₀ two_ne_zero]
    exact mul_lt_mul_of_pos_right high power
  rw [zpow_le_iff (value_pos positive)] at above
  rw [lt_zpow_iff (value_pos positive)] at below
  omega

theorem reaches_iff (magnitude : Magnitude) (exponent : ℤ) :
    (decimalRatio 1 exponent).1 * magnitude.ratio.2 ≤ magnitude.ratio.1 * (decimalRatio 1 exponent).2 ↔
      10 ^ exponent ≤ magnitude.value := by
  obtain ⟨bottom, value⟩ := magnitude.ratio_eq
  obtain ⟨unit, power⟩ := decimalRatio_eq 1 exponent
  rw [Nat.cast_one, one_mul] at power
  rw [← value, ← power, div_le_div_iff₀ (by exact_mod_cast unit) (by exact_mod_cast bottom)]
  exact_mod_cast Iff.rfl

theorem leadingExponent_eq (positive : 0 < magnitude.significand) :
    magnitude.leadingExponent = Int.log 10 magnitude.value := by
  have nonzero := value_pos positive
  have ten : (1 : ℕ) < 10 := by decide
  have log := log_value positive
  have low : (10 : ℚ) ^ Int.log 10 magnitude.value < 2 ^ (Int.log 2 magnitude.value + 1) :=
    (Int.zpow_log_le_self ten nonzero).trans_lt (Int.lt_zpow_succ_log_self one_lt_two _)
  have high : (2 : ℚ) ^ Int.log 2 magnitude.value < 10 ^ (Int.log 10 magnitude.value + 1) :=
    (Int.zpow_log_le_self one_lt_two nonzero).trans_lt (Int.lt_zpow_succ_log_self ten _)
  have short : magnitude.significand.log2 < 53 := (Nat.log2_lt positive.ne').mpr magnitude.normal.bounded
  have least := magnitude.lowest
  have most := magnitude.highest
  have near := guess_near low high (by omega) (by omega)
  rw [log] at near
  have reached (exponent : ℤ) : 10 ^ exponent ≤ magnitude.value ↔ exponent ≤ Int.log 10 magnitude.value :=
    Int.zpow_le_iff_le_log ten nonzero
  simp only [leadingExponent, reaches_iff, reached, decide_eq_true_eq]
  split
  · omega
  · split <;> omega

theorem cast_shift (digits places : ℕ) : ((digits * 10 ^ places : ℕ) : ℚ) = digits * 10 ^ (places : ℤ) := by
  push_cast
  rfl

theorem grid_natCast {leading places fewer : ℕ} (lead : magnitude.leadingExponent = leading)
    (sum : places + fewer = leading) : magnitude.grid (fewer + 1) = places := by
  rw [grid, lead, Nat.add_sub_cancel]
  omega

/-- What the scan takes from a grid is the number to which the value is shortened, if no grid before it has any. -/
theorem shortens_of_scan {leading fewer : ℕ} {found : ℕ × ℤ} (places : ℕ) (positive : 0 < magnitude.significand)
    (lead : magnitude.leadingExponent = leading) (beyond : magnitude.value < rounded (10 ^ (leading + 1) : ℕ))
    (sum : places + fewer = leading) (taken : magnitude.neighbour? .up (fewer + 1) = some found)
    (missing : ∀ earlier < fewer, magnitude.neighbour? .up (earlier + 1) = none) :
    found.2 = places ∧ Shortens magnitude.value places (found.1 * 10 ^ places) := by
  obtain ⟨place, reads, nearest⟩ := neighbour?_eq_some taken
  rw [grid_natCast lead sum] at place reads nearest
  refine ⟨place, Nat.dvd_mul_left _ _, by rw [cast_shift, reads], ?_, ?_⟩
  · rintro _ ⟨digits, rfl⟩
    rw [mul_comm, cast_shift]
    cases fewer with
    | zero =>
      -- no power of ten beyond the first grid reads back, nor does zero
      rw [add_zero] at sum
      rw [sum, ← cast_shift]
      rcases digits.eq_zero_or_pos with rfl | some
      · rw [zero_mul, Nat.cast_zero, rounded_zero]
        exact (value_pos positive).ne
      · have above : ((10 ^ (leading + 1) : ℕ) : ℚ) ≤ (digits * 10 ^ (leading + 1) : ℕ) := by
          exact_mod_cast Nat.le_mul_of_pos_left _ some
        exact (beyond.trans_le (rounded_mono (Nat.cast_nonneg _) above)).ne'
    | succ fewer =>
      rw [← grid_natCast lead (show places + 1 + fewer = leading by omega)]
      exact neighbour?_eq_none (missing fewer (Nat.lt_succ_self fewer)) digits
  · rintro _ ⟨digits, rfl⟩ own
    rw [mul_comm, cast_shift] at own
    rw [mul_comm (10 ^ places) digits, cast_shift, cast_shift]
    exact nearest digits own

/-- The scan over the grids gives the number to which the value is shortened, if some grid of at most seventeen digits has
a whole number that reads back and the next power of ten does not. -/
theorem exists_shortest {leading : ℕ} (positive : 0 < magnitude.significand) (lead : magnitude.leadingExponent = leading)
    (beyond : magnitude.value < rounded (10 ^ (leading + 1) : ℕ)) (within : zeros ≤ leading) (short : leading < zeros + 17)
    (hit : 10 ^ zeros ∣ number') (reads : rounded number' = magnitude.value) :
    ∃ places number digits exponent : ℕ, zeros ≤ places ∧ Shortens magnitude.value places number ∧
      magnitude.shortest .up = (digits, (exponent : ℤ)) ∧ digits * 10 ^ exponent = number := by
  obtain ⟨fewer, sum⟩ := Nat.exists_eq_add_of_le within
  have present : magnitude.neighbour? .up (fewer + 1) ≠ none := by
    intro missing
    obtain ⟨point, rfl⟩ := hit
    rw [mul_comm, cast_shift, ← grid_natCast lead sum.symm] at reads
    exact neighbour?_eq_none missing point reads
  obtain ⟨found, scan⟩ : ∃ found,
      (List.range 17).findSome? (fun fewer => magnitude.neighbour? .up (fewer + 1)) = some found := by
    rw [← Option.ne_none_iff_exists']
    intro missing
    exact present (List.findSome?_eq_none_iff.mp missing fewer (List.mem_range.mpr (by omega)))
  obtain ⟨first, taken, missing⟩ := findSome?_range scan
  have early : first ≤ fewer := by
    by_contra late
    exact present (missing fewer (by omega))
  obtain ⟨place, shortens⟩ := shortens_of_scan (leading - first) positive lead beyond (by omega) taken missing
  obtain ⟨digits, exponent⟩ := found
  obtain rfl : exponent = ((leading - first : ℕ) : ℤ) := place
  have nonzero : magnitude.isZero = false := by simpa [isZero] using positive.ne'
  simp only [shortest, nonzero, scan, Bool.false_eq_true, if_false]
  by_cases round : digits % 10 = 0
  · refine ⟨_, _, digits / 10, leading - first + 1, by omega, shortens, by rw [if_pos round, Nat.cast_succ], ?_⟩
    rw [pow_succ', ← mul_assoc, Nat.div_mul_cancel (Nat.dvd_of_mod_eq_zero round)]
  · exact ⟨_, _, digits, leading - first, by omega, shortens, by rw [if_neg round], rfl⟩

end Magnitude

theorem digits_shift {number : ℕ} (positive : 0 < number) (places : ℕ) :
    digits number ++ List.replicate places '0' = digits (number * 10 ^ places) := by
  induction places with
  | zero => simp
  | succ places ih =>
    have longer := Nat.toDigits_append_toDigits (b := 10) (n := number * 10 ^ places) (d := 0)
      (by decide) (by positivity) (by decide)
    rw [List.replicate_succ', ← List.append_assoc, ih, digits, digits, pow_succ', Nat.mul_left_comm]
    exact longer

/-- A layout without powers of ten and without an end for whole numbers writes a whole decimal as its digits. -/
theorem Layout.magnitude_whole {layout : Layout} {magnitude : Magnitude} {number exponent : ℕ}
    (positional : ∀ leading, layout.positional leading = true) (plain : layout.wholeEnd = "") (positive : 0 < number)
    (shortest : magnitude.shortest layout.tie = (number, (exponent : ℤ))) :
    layout.magnitude magnitude = digits (number * 10 ^ exponent) := by
  simp only [Layout.magnitude, shortest, positional, if_true, Layout.place, Int.natCast_nonneg, Int.toNat_natCast, plain]
  rw [← digits_shift positive]
  exact List.append_nil _

end TextTemplate.Decimal
