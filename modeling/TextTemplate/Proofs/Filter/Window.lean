import TextTemplate.Filter.Builtin

/-! Substrings as slices in exact arithmetic. The 64-bit arithmetic that finds a substring never
leaves its range, however far the arguments lie outside the text, and it finds the same slice. -/
namespace TextTemplate.Builtin

/-- Where a substring begins, for a start of any size. -/
def sliceStart (length start : Int) : Int :=
  if start < 0 then max 0 (length + start) else min start length

def sliceStop (length first : Int) : Option Int → Int
  | none => length
  | some count => min length (first + max 0 count)

/-- An exact result as a 64-bit integer. There is none when it is out of range. -/
def fits? (result : Int) : Option Int64 :=
  if Int64.minValue.toInt ≤ result ∧ result ≤ Int64.maxValue.toInt then some (Int64.ofInt result) else none

/-- A 64-bit integer as a number of characters. There is none when it is negative. -/
def characters? (number : Int64) : Option Nat :=
  if 0 ≤ number.toInt then some number.toInt.toNat else none

/-- The start of a window, where a sum that overflows is no sum. -/
def windowStart? (length start : Int64) : Option Int64 :=
  if start < 0 then (fits? (length.toInt + start.toInt)).map fun sum => if sum < 0 then 0 else sum
  else some (if length < start then length else start)

/-- The window of a text, found only when no length, sum or difference overflows on the way and
no negative integer is taken for a number of characters. -/
def window? (text : List Char) (start : Int64) (count : Option Int64) : Option (List Char) := do
  let length ← fits? text.length
  let first ← windowStart? length start
  let skipped ← characters? first
  let width ← fits? ((windowStop length first count).toInt - first.toInt)
  let taken ← characters? width
  some ((text.drop skipped).take taken)

variable {length start first stop number : Int64} {count : Option Int64}
variable {text : List Char}

theorem fits?_eq_some {result : Int} : fits? result = some number ↔ number.toInt = result := by
  unfold fits?
  constructor
  · intro found
    split at found
    · rename_i bounds
      cases found
      rw [Int64.toInt_minValue, Int64.toInt_maxValue] at bounds
      exact Int64.toInt_ofInt_of_le bounds.1 (by omega)
    · cases found
  · intro same
    have bounds := And.intro number.minValue_le_toInt number.toInt_le
    rw [← same, if_pos bounds, Int64.ofInt_toInt]

theorem characters?_eq_some (nonneg : 0 ≤ number.toInt) : characters? number = some number.toInt.toNat :=
  if_pos nonneg

theorem toInt_add_negative (nonneg : 0 ≤ length.toInt) (negative : start.toInt < 0) :
    (length + start).toInt = length.toInt + start.toInt := by
  have high := length.toInt_lt
  have low := start.le_toInt
  rw [Int64.toInt_add]
  apply Int.bmod_eq_of_le <;> omega

theorem toInt_sub_behind (nonneg : 0 ≤ first.toInt) (behind : first.toInt ≤ stop.toInt) :
    (stop - first).toInt = stop.toInt - first.toInt := by
  have high := stop.toInt_lt
  rw [Int64.toInt_sub]
  apply Int.bmod_eq_of_le <;> omega

theorem toInt_windowStart (nonneg : 0 ≤ length.toInt) (start : Int64) :
    (windowStart length start).toInt = sliceStart length.toInt start.toInt := by
  simp only [windowStart, sliceStart, Int64.lt_iff_toInt_lt, Int64.toInt_zero]
  by_cases negative : start.toInt < 0
  · have sum := toInt_add_negative nonneg negative
    simp only [negative, if_true, sum]
    split
    · rw [Int64.toInt_zero]; omega
    · omega
  · simp only [negative, if_false]
    split <;> omega

theorem windowStart?_eq_some (nonneg : 0 ≤ length.toInt) :
    windowStart? length start = some (windowStart length start) := by
  unfold windowStart? windowStart
  by_cases negative : start < 0
  · have below : start.toInt < 0 := Int64.lt_iff_toInt_lt.mp negative
    rw [if_pos negative, if_pos negative, fits?_eq_some.mpr (toInt_add_negative nonneg below), Option.map_some]
  · rw [if_neg negative, if_neg negative]

theorem toInt_saturatingAdd (first second : Int64) (nonneg : 0 ≤ first.toInt) (more : 0 ≤ second.toInt) :
    (saturatingAdd first second).toInt = min Int64.maxValue.toInt (first.toInt + second.toInt) := by
  have low : Int64.minValue.toInt ≤ first.toInt + second.toInt := by
    rw [Int64.toInt_minValue]
    omega
  rw [saturatingAdd, Int64.ofIntClamp, dif_pos low]
  split
  · rw [Int64.toInt_ofIntLE]
    omega
  · omega

/-- A sum that saturates is at or behind the end of any text, as the exact sum is. -/
theorem toInt_windowStop (nonneg : 0 ≤ first.toInt) :
    (windowStop length first count).toInt = sliceStop length.toInt first.toInt (count.map Int64.toInt) := by
  cases count with
  | none => rfl
  | some count =>
    have clipped : (if count < 0 then 0 else count).toInt = max 0 count.toInt := by
      simp only [Int64.lt_iff_toInt_lt, Int64.toInt_zero]
      split
      · rw [Int64.toInt_zero]
        omega
      · omega
    have sum := toInt_saturatingAdd first (if count < 0 then 0 else count) nonneg (by omega)
    have longest := length.toInt_le
    rw [clipped] at sum
    simp only [windowStop, sliceStop, Option.map_some, Int64.lt_iff_toInt_lt (x := length), sum]
    split <;> omega

theorem slice_bounds {length : Int} (nonneg : 0 ≤ length) (start : Int) (count : Option Int) :
    0 ≤ sliceStart length start ∧ sliceStart length start ≤ sliceStop length (sliceStart length start) count ∧
      sliceStop length (sliceStart length start) count ≤ length := by
  have inside : 0 ≤ sliceStart length start ∧ sliceStart length start ≤ length := by
    unfold sliceStart
    split <;> omega
  cases count with
  | none => exact ⟨inside.1, inside.2, Int.le_refl _⟩
  | some count =>
    simp only [sliceStop]
    omega

theorem window_ordered (nonneg : 0 ≤ length.toInt) (start : Int64) (count : Option Int64) :
    0 ≤ (windowStart length start).toInt ∧
      (windowStart length start).toInt ≤ (windowStop length (windowStart length start) count).toInt := by
  have begins := toInt_windowStart nonneg start
  obtain ⟨inside, ordered, _⟩ := slice_bounds nonneg start.toInt (count.map Int64.toInt)
  rw [← begins] at inside ordered
  rw [toInt_windowStop inside]
  exact ⟨inside, ordered⟩

theorem toInt_length (short : (text.length : Int) ≤ Int64.maxValue.toInt) :
    (Int64.ofNat text.length).toInt = text.length := by
  rw [Int64.toInt_maxValue] at short
  apply Int64.toInt_ofNat_of_lt
  omega

/-- No length, sum or difference overflows, and no negative integer counts characters. -/
theorem window?_eq_some (short : (text.length : Int) ≤ Int64.maxValue.toInt) :
    window? text start count = some (window text start count) := by
  have size := toInt_length short
  have nonneg : 0 ≤ (Int64.ofNat text.length).toInt := by omega
  obtain ⟨inside, ordered⟩ := window_ordered nonneg start count
  have width := toInt_sub_behind inside ordered
  have taken : 0 ≤ (windowStop (Int64.ofNat text.length) (windowStart (Int64.ofNat text.length) start) count -
      windowStart (Int64.ofNat text.length) start).toInt := by omega
  simp only [window?, window, fits?_eq_some.mpr size, fits?_eq_some.mpr width, windowStart?_eq_some nonneg,
    characters?_eq_some inside, characters?_eq_some taken, Option.bind_eq_bind, Option.bind_some]

theorem window_eq_extract (short : (text.length : Int) ≤ Int64.maxValue.toInt) :
    window text start count = text.extract (sliceStart text.length start.toInt).toNat
      (sliceStop text.length (sliceStart text.length start.toInt) (count.map Int64.toInt)).toNat := by
  have size := toInt_length short
  have nonneg : 0 ≤ (Int64.ofNat text.length).toInt := by omega
  obtain ⟨inside, ordered⟩ := window_ordered nonneg start count
  rw [← size, ← toInt_windowStart nonneg, ← toInt_windowStop inside, window, List.extract_eq_take_drop,
    toInt_sub_behind inside ordered]
  congr 1
  omega

/-- A substring is an exact slice of the characters of the value, for arguments of any variant and
of any size, and only a call without a start fails. -/
theorem substr_eq_slice (value : Value) (short : (value.text.toList.length : Int) ≤ Int64.maxValue.toInt) :
    (∀ arguments error, substr value arguments = .error error ↔
      arguments = [] ∧ error = .missingArgument "substr" 0) ∧
    ∀ start more,
      let text := value.text.toList
      let count := more.head?.map Value.integer
      let first := sliceStart text.length start.integer.toInt
      let stop := sliceStop text.length first (count.map Int64.toInt)
      substr value (start :: more) = .ok (.str (String.ofList (text.extract first.toNat stop.toNat))) ∧
        0 ≤ first ∧ first ≤ stop ∧ stop ≤ text.length ∧
        window? text start.integer count = some (text.extract first.toNat stop.toNat) := by
  constructor
  · intro arguments error
    cases arguments with
    | nil =>
      simp only [true_and]
      constructor
      · intro failed
        cases failed
        rfl
      · intro same
        rw [same]
        rfl
    | cons start more =>
      constructor
      · intro failed
        cases failed
      · intro absent
        cases absent.1
  · intro start more text count first stop
    have nonneg : (0 : Int) ≤ text.length := Int.natCast_nonneg _
    obtain ⟨inside, ordered, within⟩ := slice_bounds nonneg start.integer.toInt (count.map Int64.toInt)
    have same : window text start.integer count = text.extract first.toNat stop.toNat := window_eq_extract short
    refine ⟨?_, inside, ordered, within, ?_⟩
    · rw [← same, substr, argument, List.getElem?_cons_zero, List.getElem?_cons_succ, ← List.head?_eq_getElem?]
      rfl
    · rw [← same]
      exact window?_eq_some short

/-- A start given as text is truncated, a count of any size ends with the text, and the least start
is clipped to the first character. -/
theorem substr_eq_slice_extremes :
    ("héllo".toList.length : Int) ≤ Int64.maxValue.toInt ∧
      substr (.str "héllo") [.str " -4.9", .int Int64.maxValue] = .ok (.str "éllo") ∧
      window? "héllo".toList (-4) (some Int64.maxValue) = some "éllo".toList ∧
      substr (.str "héllo") [.int Int64.minValue, .bool true] = .ok (.str "h") := by
  have short : ("héllo".toList.length : Int) ≤ Int64.maxValue.toInt := by decide
  have truncated : Value.integer (.str " -4.9") = -4 := by decide
  obtain ⟨_, slices⟩ := substr_eq_slice (.str "héllo") short
  obtain ⟨saturated, _, _, _, fits⟩ := slices (.str " -4.9") [.int Int64.maxValue]
  obtain ⟨clipped, _⟩ := slices (.int Int64.minValue) [.bool true]
  rw [truncated] at saturated fits
  exact ⟨short, saturated, fits, clipped⟩

end TextTemplate.Builtin
