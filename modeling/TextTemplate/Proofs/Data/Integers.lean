import TextTemplate.Proofs.Template.Invocation
import TextTemplate.Proofs.Value.WholeFloat

/-! Integers in documents. In an array or an object an integer is written with its digits. One that a placeholder names
goes through a 64-bit integer if that can hold it, else through the nearest float. A float of this size is written with
at least three zeros at its end, so that the digits are those of the integer only if the float is shortened to it. -/
namespace TextTemplate

namespace Decimal

variable {units number : ℕ}

theorem toString_inj {first second : ℕ} : toString (first : ℤ) = toString (second : ℤ) ↔ first = second := by
  rw [← ofList_intDigits, ← ofList_intDigits, String.ofList_inj]
  constructor
  · intro same
    have own : digits first = digits second := same
    rw [← Expression.digitsValue_digits first, own, Expression.digitsValue_digits]
  · rintro rfl
    rfl

/-- Between `2 ^ 63` and `2 ^ 64` a float is a whole number of units of `2 ^ 11`. -/
theorem rounded_wide (low : 2 ^ 63 ≤ number) (high : number < 2 ^ 64) :
    ∃ units, 2 ^ 52 ≤ units ∧ units ≤ 2 ^ 53 ∧ rounded number = (units * 2 ^ 11 : ℕ) := by
  have unit : (0 : ℚ) < 2 ^ 11 := by positivity
  have place : lastPlace number = (11 : ℕ) := lastPlace_natCast low high
  refine ⟨roundEven (number / 2 ^ 11), le_roundEven ?_, roundEven_le ?_, ?_⟩
  · rw [le_div_iff₀ unit]
    exact_mod_cast low
  · rw [div_le_iff₀ unit]
    exact_mod_cast high.le
  · rw [rounded, place, zpow_natCast]
    push_cast
    rfl

/-- The next thousand above such a float reads back as the float. -/
theorem exists_thousand (full : 2 ^ 52 ≤ units) (fits : units ≤ 2 ^ 53) :
    ∃ number : ℕ, 10 ^ 3 ∣ number ∧ rounded number = (units * 2 ^ 11 : ℕ) := by
  refine ⟨10 ^ 3 * (units * 2 ^ 11 / 10 ^ 3 + 1), Nat.dvd_mul_right _ _, ?_⟩
  rcases fits.lt_or_eq with short | rfl
  · exact rounded_down units 11 (by omega) (by omega) (by omega) (by omega)
  · -- the last of them begins the next power of two, with units of `2 ^ 12`
    rw [show 2 ^ 53 * 2 ^ 11 = 2 ^ 52 * 2 ^ 12 by decide]
    exact rounded_down (2 ^ 52) 12 (by omega) (by omega) (by omega) (by omega)

end Decimal

namespace Json

open Decimal

variable {number : ℕ}

theorem nearestFloat_wide (low : 2 ^ 63 ≤ number) (high : number < 2 ^ 64) :
    ∃ magnitude, nearestFloat number = .finite false magnitude ∧ magnitude.value = rounded number := by
  obtain ⟨units, _, fits, same⟩ := rounded_wide low high
  have finite : rounded (number : ℚ) < 2 ^ (1024 : ℤ) := by
    have bound : ((units * 2 ^ 11 : ℕ) : ℚ) < (2 ^ 65 : ℕ) := by
      have short : units * 2 ^ 11 < 2 ^ 65 := by omega
      exact_mod_cast short
    calc rounded (number : ℚ) < (2 ^ 65 : ℕ) := same.trans_lt bound
      _ = 2 ^ (65 : ℤ) := by norm_num
      _ ≤ 2 ^ (1024 : ℤ) := zpow_mono (by decide)
  obtain ⟨magnitude, value⟩ := Magnitude.exists_value (by exact_mod_cast lt_of_lt_of_le (by decide) low) finite
  have read : Magnitude.ofRatio? number 1 = some magnitude := by
    rwa [Magnitude.ofRatio?_eq_some one_pos, Nat.cast_one, div_one]
  refine ⟨magnitude, ?_, value⟩
  have positive : ¬ (number : ℤ) < 0 := by omega
  simp only [nearestFloat, Numeral.toBinary64, positive, decide_false, magnitude?_whole, Int.natAbs_natCast, read]

/-- The float nearest to an integer beyond the signed range has the text of the number to which it is shortened, which
ends in three zeros or more. -/
theorem text_nearestFloat (low : 2 ^ 63 ≤ number) (high : number < 2 ^ 64) :
    ∃ zeros shortened, 3 ≤ zeros ∧ Shortens (rounded number) zeros shortened ∧
      (Value.float (nearestFloat number)).text = toString shortened := by
  obtain ⟨magnitude, nearest, value⟩ := nearestFloat_wide low high
  obtain ⟨units, full, fits, same⟩ := rounded_wide low high
  obtain ⟨thousand, ends, reads⟩ := exists_thousand full fits
  rw [same] at value ⊢
  generalize product : units * 2 ^ 11 = whole at value reads ⊢
  have least : 18 ≤ Nat.log 10 whole := Nat.le_log_of_pow_le (by decide) (by omega)
  have most : Nat.log 10 whole < 20 := Nat.log_lt_of_lt_pow (by omega) (by omega)
  obtain ⟨zeros, shortened, many, shortens, written⟩ :=
    Value.magnitude_shortens value (by omega) (by omega) (by omega) (by omega) ends reads
  have floor : magnitude.floor = whole := by rw [Magnitude.floor_eq, value, Nat.floor_natCast]
  have beyond : ¬ whole < Value.wholeBound := by
    rw [Value.wholeBound]
    omega
  have text : Value.floatText (.finite false magnitude) = digits shortened := by
    simpa [Value.floatText, floor, beyond, Layout.write] using written
  refine ⟨zeros, shortened, many, shortens, ?_⟩
  rw [nearest, Value.text, text]
  rfl

theorem itemsText_eq (items : List Json) : itemsText items = items.flatMap fun item => ',' :: item.text := by
  induction items with
  | nil => rfl
  | cons item items ih => rw [itemsText, ih, List.flatMap_cons]

def memberText (member : String × Json) : List Char := stringText member.1 ++ ':' :: member.2.text

theorem membersText_eq (members : List (String × Json)) :
    membersText members = members.flatMap fun member => ',' :: memberText member := by
  induction members with
  | nil => rfl
  | cons member members ih =>
    rw [membersText, ih, List.flatMap_cons, memberText, List.cons_append, List.cons_append]

theorem text_integer (value : ℤ) : (Json.number (.integer value)).text = (toString value).toList := by
  rw [← ofList_intDigits, String.toList_ofList]
  rfl

theorem text_array (items : List Json) :
    (Json.array items).text = '[' :: List.intercalate [','] (items.map text) ++ [']'] := by
  cases items with
  | nil => rfl
  | cons first rest =>
    rw [text, itemsText_eq, List.map_cons, Text.intercalate_cons, List.flatMap_map]
    rfl

theorem text_object (members : List (String × Json)) :
    (Json.object members).text = '\x7b' :: List.intercalate [','] (members.map memberText) ++ ['\x7d'] := by
  cases members with
  | nil => rfl
  | cons first rest =>
    rw [text, membersText_eq, List.map_cons, Text.intercalate_cons, List.flatMap_map, memberText]
    simp

theorem read_member {members : List (String × Json)} {key : String} {document : Json} {value : Value}
    (held : members.lookup key = some document) (scalar : document.scalar? = some value) :
    (Json.object members).data.read key = value := by
  simp [Data.read, data, held, scalar]

/-- The value of an integer has the digits of the integer as its text exactly when a signed 64-bit integer can hold it or
the nearest float is shortened to it. -/
theorem text_scalar? {value : ℤ} (low : -2 ^ 63 ≤ value) (high : value < 2 ^ 64) :
    ∃ scalar, (Json.number (.integer value)).scalar? = some scalar ∧
      (scalar.text = toString value ↔ value < 2 ^ 63 ∨ ∃ zeros, Shortens (rounded value) zeros value.toNat) ∧
      (2 ^ 63 ≤ value → ∃ zeros shortened, Shortens (rounded value) zeros shortened ∧ 1000 ∣ shortened ∧
        scalar.text = toString shortened) := by
  rw [scalar?, Int64.toInt_minValue, Int64.toInt_maxValue]
  by_cases narrow : value < 2 ^ 63
  · have own : (Int64.ofIntClamp value).toInt = value := by
      rw [toInt_ofIntClamp, Int64.toInt_minValue, Int64.toInt_maxValue]
      omega
    rw [if_pos (by omega)]
    refine ⟨_, rfl, iff_of_true ?_ (.inl narrow), fun wide => by omega⟩
    rw [Value.text, own, ofList_intDigits]
  · obtain ⟨number, rfl⟩ := Int.eq_ofNat_of_zero_le (by omega : 0 ≤ value)
    obtain ⟨zeros, shortened, many, shortens, text⟩ := text_nearestFloat (by omega : 2 ^ 63 ≤ number) (by omega)
    have thousand : 1000 ∣ shortened := (pow_dvd_pow 10 many).trans shortens.ends
    rw [if_neg (by omega)]
    refine ⟨_, rfl, ?_, fun _ => ⟨zeros, shortened, shortens, thousand, text⟩⟩
    rw [text, or_iff_right narrow, Int.toNat_natCast]
    constructor
    · intro same
      obtain rfl := toString_inj.mp same
      exact ⟨zeros, shortens⟩
    · rintro ⟨others, own⟩
      rw [shortens.unique own]
      rfl

end Json

namespace Template

open Decimal
open Delimiter (Brace)

/-- The content of a placeholder that names a key and calls nothing. -/
structure Bare (content key : String) : Prop where
  nonempty : content ≠ ""
  plain : ∀ c ∈ content.toList, ¬ Brace c
  reads : Expression.read content.toList = .ok ⟨key, []⟩

variable {delimiter : Delimiter} {opening closing content key : String}

/-- Such a placeholder is rendered as the text of its datum, whatever filters there are. -/
theorem rendered_bare (paired : Delimiter.pair opening closing = .ok delimiter) (bare : Bare content key)
    (filters callFilters : FilterTable) (registry : Registry) (data : Data) :
    rendered delimiter filters callFilters registry data (opening ++ content ++ closing) = .ok (data.read key).text := by
  rw [rendered_single paired bare.nonempty bare.plain bare.reads]
  rfl

/-- A placeholder renders an integer of a document to its digits exactly when a signed 64-bit integer can hold it or
the nearest float is shortened to it. Beyond the signed range it renders the number to which that float is shortened,
a multiple of a thousand. An array or an object is rendered with the digits of each integer in it. -/
theorem rendered_member (paired : Delimiter.pair opening closing = .ok delimiter) (bare : Bare content key)
    (filters callFilters : FilterTable) (registry : Registry) (members : List (String × Json)) :
    ∃ output, rendered delimiter filters callFilters registry (Json.object members).data (opening ++ content ++ closing) =
        .ok output ∧
      (∀ value : ℤ, -2 ^ 63 ≤ value → value < 2 ^ 64 → members.lookup key = some (.number (.integer value)) →
        (output = toString value ↔ value < 2 ^ 63 ∨ ∃ zeros, Shortens (rounded value) zeros value.toNat) ∧
        (2 ^ 63 ≤ value → ∃ zeros number, Shortens (rounded value) zeros number ∧ 1000 ∣ number ∧
          output = toString number)) ∧
      (∀ items, members.lookup key = some (.array items) →
        output = String.ofList ('[' :: List.intercalate [','] (items.map Json.text) ++ [']'])) ∧
      (∀ fields, members.lookup key = some (.object fields) →
        output = String.ofList ('\x7b' :: List.intercalate [','] (fields.map Json.memberText) ++ ['\x7d'])) ∧
      ∀ value : ℤ, (Json.number (.integer value)).text = (toString value).toList := by
  refine ⟨_, rendered_bare paired bare filters callFilters registry _, ?_, ?_, ?_, Json.text_integer⟩
  · intro value low high held
    obtain ⟨scalar, known, exact⟩ := Json.text_scalar? low high
    rwa [Json.read_member held known]
  · intro items held
    rw [Json.read_member held rfl, Value.text, Json.text_array]
  · intro fields held
    rw [Json.read_member held rfl, Value.text, Json.text_object]

/-- The last signed integer is rendered with its digits, and the last of sixty-four bits to a multiple of a thousand. -/
theorem rendered_member_ends :
    rendered .standard ∅ ∅ .empty (Json.object [("n", .number (.integer 9223372036854775807))]).data "$\x7bn\x7d" =
        .ok "9223372036854775807" ∧
      ∃ number, 1000 ∣ number ∧
        rendered .standard ∅ ∅ .empty (Json.object [("n", .number (.integer 18446744073709551615))]).data "$\x7bn\x7d" =
          .ok (toString number) := by
  have bare : Bare "n" "n" := ⟨by decide, by simp [Brace], rfl⟩
  constructor
  · obtain ⟨output, success, integers, _⟩ := rendered_member Delimiter.pair_standard bare ∅ ∅ .empty
      [("n", .number (.integer 9223372036854775807))]
    have own : output = "9223372036854775807" :=
      (integers 9223372036854775807 (by decide) (by decide) rfl).1.mpr (.inl (by decide))
    exact success.trans (congrArg Except.ok own)
  · obtain ⟨output, success, integers, _⟩ := rendered_member Delimiter.pair_standard bare ∅ ∅ .empty
      [("n", .number (.integer 18446744073709551615))]
    obtain ⟨zeros, number, _, thousand, text⟩ :=
      (integers 18446744073709551615 (by decide) (by decide) rfl).2 (by decide)
    exact ⟨number, thousand, success.trans (congrArg Except.ok text)⟩

/-- The greatest integer of sixty-four bits loses its digits where it is named, and keeps them in an array. -/
theorem rendered_loses_digits :
    rendered .standard ∅ ∅ .empty (Json.object [("n", .number (.integer 18446744073709551615))]).data "$\x7bn\x7d" =
        .ok "18446744073709552000" ∧
      rendered .standard ∅ ∅ .empty
          (Json.object [("list", .array [.number (.integer 18446744073709551615)])]).data "$\x7blist\x7d" =
        .ok "[18446744073709551615]" := by
  have number : Bare "n" "n" := ⟨by decide, by simp [Brace], rfl⟩
  have list : Bare "list" "list" := ⟨by decide, by simp [Brace], rfl⟩
  constructor
  · exact (rendered_bare Delimiter.pair_standard number ∅ ∅ .empty _).trans rfl
  · exact (rendered_bare Delimiter.pair_standard list ∅ ∅ .empty _).trans rfl

end Template

end TextTemplate
