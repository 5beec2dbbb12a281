import TextTemplate.Proofs.Expression.Grammar

/-! Numerals are read exactly as the grammar derives them. -/
namespace TextTemplate.Decimal

open Expression (Literal.isSign)
open Expression.Grammar
open Text

theorem isDigit_iff {c : Char} : c.isDigit = true ↔ Digit c := by
  simp only [Char.isDigit, Digit, Char.le_def, Bool.and_eq_true, decide_eq_true_eq, ge_iff_le]

theorem ne_of_digit {c other : Char} (digit : Digit c) (mark : other.isDigit = false) : c ≠ other := by
  rintro rfl
  rw [isDigit_iff.mpr digit] at mark
  cases mark

theorem all_isDigit_iff {text : List Char} : text.all Char.isDigit = true ↔ ∀ c ∈ text, Digit c := by
  simp only [List.all_eq_true, isDigit_iff]

theorem digit_of_mem_takeWhile (text : List Char) :
    ∀ c ∈ text.takeWhile Char.isDigit, Digit c :=
  fun _ member => isDigit_iff.mp (of_mem_takeWhile member)

theorem readDigits?_eq_some {text : List Char} {number : Nat} :
    readDigits? text = some number ↔ Digits text ∧ number = digitsValue text := by
  unfold readDigits?
  cases text with
  | nil => simp [Digits]
  | cons c rest =>
    by_cases run : (c :: rest).all Char.isDigit = true
    · have digits := all_isDigit_iff.mp run
      simp only [run, Digits, List.isEmpty_cons, Bool.not_true, Bool.or_self, Bool.false_eq_true,
        if_false, Option.some.injEq]
      exact ⟨fun same => ⟨⟨by simp, digits⟩, same.symm⟩, fun both => both.2.symm⟩
    · have other : ¬ ∀ d ∈ c :: rest, Digit d := fun digits => run (all_isDigit_iff.mpr digits)
      simp only [run, Digits, other, and_false, false_and, iff_false]
      simp

theorem sign_of_splitSign {text rest : List Char} {negative : Bool}
    (split : splitSign text = (negative, rest)) : ∃ sign, Sign sign negative ∧ text = sign ++ rest := by
  unfold splitSign at split
  split at split
  · cases split
    exact ⟨['-'], .minus, rfl⟩
  · cases split
    exact ⟨['+'], .plus, rfl⟩
  · cases split
    exact ⟨[], .absent, rfl⟩

/-- A sign is taken off a text whose rest begins with none. -/
theorem splitSign_append {sign rest : List Char} {negative : Bool} (signed : Sign sign negative)
    (bare : EndsRun Literal.isSign rest) : splitSign (sign ++ rest) = (negative, rest) := by
  cases signed with
  | plus => rfl
  | minus => rfl
  | absent =>
    rw [List.nil_append]
    unfold splitSign
    split
    · exact absurd (bare _ rfl) (by decide)
    · exact absurd (bare _ rfl) (by decide)
    · rfl

theorem not_sign_of_digit {c : Char} (digit : Digit c) : Literal.isSign c = false := by
  rw [Literal.isSign, beq_false_of_ne (ne_of_digit digit rfl), beq_false_of_ne (ne_of_digit digit rfl), Bool.or_false]

theorem bare_of_digits {digits : List Char} (run : Digits digits) (rest : List Char) :
    EndsRun Literal.isSign (digits ++ rest) := by
  obtain ⟨nonempty, digit⟩ := run
  cases digits with
  | nil => exact absurd rfl nonempty
  | cons c later => exact endsRun_cons (not_sign_of_digit (digit c List.mem_cons_self)) _

theorem readInt?_eq_some {text : List Char} {number : Int} :
    readInt? text = some number ↔ WholeText text number := by
  constructor
  · intro success
    cases split : splitSign text with
    | mk negative unsigned =>
      obtain ⟨sign, signed, rfl⟩ := sign_of_splitSign split
      simp only [readInt?, split] at success
      obtain ⟨magnitude, digits, rfl⟩ := Option.map_eq_some_iff.mp success
      obtain ⟨run, rfl⟩ := readDigits?_eq_some.mp digits
      exact .whole signed run
  · rintro ⟨signed, run⟩
    have bare := bare_of_digits run []
    rw [List.append_nil] at bare
    simp only [readInt?, splitSign_append signed bare, readDigits?_eq_some.mpr ⟨run, rfl⟩, Option.map_some]

/-- A whole number is read when it is one of the 64-bit integers, and as that one. -/
theorem readInt64?_eq_some {text : List Char} {number : Int64} :
    readInt64? text = some number ↔ WholeText text number.toInt := by
  rw [← readInt?_eq_some]
  constructor
  · intro success
    obtain ⟨whole, read, fits⟩ := Option.bind_eq_some_iff.mp success
    split at fits
    · rename_i bounds
      cases fits
      rw [Int64.toInt_ofIntClamp bounds.1 bounds.2]
      exact read
    · cases fits
  · intro read
    simp only [readInt64?, read, Option.bind_some]
    rw [if_pos ⟨Int64.minValue_le_toInt number, Int64.toInt_le number⟩, Int64.ofIntClamp_toInt]

theorem readExponent?_eq_some {text : List Char} {scale : Int} :
    readExponent? text = some scale ↔ Exponent text scale := by
  constructor
  · intro success
    cases text with
    | nil =>
      cases success
      exact .absent
    | cons c rest =>
      simp only [readExponent?] at success
      split at success
      · rename_i mark
        exact .power mark (readInt?_eq_some.mp success)
      · cases success
  · intro exponent
    cases exponent with
    | absent => rfl
    | power mark whole => simp only [readExponent?, mark, if_true, readInt?_eq_some.mpr whole]

/-- Digits on one side of the point are enough. -/
theorem mantissa_pointed {digits places : List Char} (before : ∀ c ∈ digits, Digit c)
    (after : ∀ c ∈ places, Digit c) (present : ¬ (digits = [] ∧ places = [])) :
    Mantissa (digits ++ '.' :: places) (digits ++ places) places.length := by
  cases digits with
  | nil => exact .fraction ⟨fun empty => present ⟨rfl, empty⟩, after⟩
  | cons c digits => exact .pointed ⟨List.cons_ne_nil c digits, before⟩ after

private theorem numeralText_of_read? {text : List Char} {numeral : Numeral}
    (success : Numeral.read? text = some numeral) : NumeralText text numeral := by
  cases split : splitSign text with
  | mk negative unsigned =>
    obtain ⟨sign, signed, rfl⟩ := sign_of_splitSign split
    simp only [Numeral.read?, split] at success
    have before := digit_of_mem_takeWhile unsigned
    have whole := List.takeWhile_append_dropWhile (p := Char.isDigit) (l := unsigned)
    split at success
    · rename_i rest point
      have after := digit_of_mem_takeWhile rest
      rw [point] at whole
      split at success
      · cases success
      · rename_i nonempty
        obtain ⟨scale, read, rfl⟩ := Option.map_eq_some_iff.mp success
        have present : ¬ (unsigned.takeWhile Char.isDigit = [] ∧ rest.takeWhile Char.isDigit = []) := by
          simpa [List.isEmpty_iff] using nonempty
        have shape : sign ++ unsigned = sign ++ (unsigned.takeWhile Char.isDigit ++
            '.' :: rest.takeWhile Char.isDigit) ++ rest.dropWhile Char.isDigit := by
          simp [whole]
        rw [shape]
        exact .numeral signed (mantissa_pointed before after present) (readExponent?_eq_some.mp read)
    · split at success
      · cases success
      · rename_i nonempty
        obtain ⟨scale, read, rfl⟩ := Option.map_eq_some_iff.mp success
        have digits : Digits (unsigned.takeWhile Char.isDigit) :=
          ⟨by simpa [List.isEmpty_iff] using nonempty, before⟩
        have shape : sign ++ unsigned = sign ++ unsigned.takeWhile Char.isDigit ++
            unsigned.dropWhile Char.isDigit := by simp [List.append_assoc]
        rw [shape]
        simpa using NumeralText.numeral signed (.whole digits) (readExponent?_eq_some.mp read)

theorem endsDigits_of_exponent {text : List Char} {scale : Int} (exponent : Exponent text scale) :
    EndsRun Char.isDigit text := by
  cases exponent with
  | absent => exact endsRun_nil _
  | power mark _ => exact endsRun_cons (by rcases mark with rfl | rfl <;> decide) _

theorem bare_of_mantissa {written digits : List Char} {places : Nat}
    (mantissa : Mantissa written digits places) (rest : List Char) :
    EndsRun Literal.isSign (written ++ rest) := by
  cases mantissa with
  | whole run => exact bare_of_digits run rest
  | pointed run _ =>
    rw [List.append_assoc]
    exact bare_of_digits run _
  | fraction _ => exact endsRun_cons (by decide) _

private theorem read?_of_numeralText {text : List Char} {numeral : Numeral}
    (derived : NumeralText text numeral) : Numeral.read? text = some numeral := by
  obtain ⟨signed, mantissa, power⟩ := derived
  have ends := endsDigits_of_exponent power
  have read := readExponent?_eq_some.mpr power
  rw [List.append_assoc]
  simp only [Numeral.read?, splitSign_append signed (bare_of_mantissa mantissa _)]
  cases mantissa with
  | whole run =>
    have digits : ∀ c ∈ _, Char.isDigit c = true := fun c member => isDigit_iff.mpr (run.2 c member)
    simp only [takeWhile_run digits ends, dropWhile_run digits ends]
    cases power with
    | absent => simp [read, run.1]
    | power mark whole =>
      rcases mark with rfl | rfl <;> simp [read, run.1]
  | pointed run after =>
    have digits : ∀ c ∈ _, Char.isDigit c = true := fun c member => isDigit_iff.mpr (run.2 c member)
    have places : ∀ c ∈ _, Char.isDigit c = true := fun c member => isDigit_iff.mpr (after c member)
    have point (rest : List Char) : EndsRun Char.isDigit ('.' :: rest) := endsRun_cons (by decide) rest
    rw [List.append_assoc, List.cons_append]
    simp only [takeWhile_run digits (point _), dropWhile_run digits (point _),
      takeWhile_run places ends, dropWhile_run places ends]
    simp [read, run.1]
  | fraction run =>
    have places : ∀ c ∈ _, Char.isDigit c = true := fun c member => isDigit_iff.mpr (run.2 c member)
    rw [List.cons_append]
    simp [takeWhile_run places ends, dropWhile_run places ends, read, run.1]

theorem numeral_read?_eq_some {text : List Char} {numeral : Numeral} :
    Numeral.read? text = some numeral ↔ NumeralText text numeral :=
  ⟨numeralText_of_read?, read?_of_numeralText⟩

/-- The named values share a letter that no numeral has. -/
theorem named?_eq_none {text : List Char} (negative : Bool) (plain : ∀ c ∈ text, c.toLower ≠ 'n') :
    named? negative text = none := by
  have absent : 'n' ∉ text.map Char.toLower := by
    intro member
    obtain ⟨c, present, lower⟩ := List.mem_map.mp member
    exact plain c present lower
  have other (name : List Char) (holds : 'n' ∈ name) : text.map Char.toLower ≠ name :=
    fun same => absent (same ▸ holds)
  simp only [named?]
  rw [if_neg, if_neg]
  · exact other _ (by decide)
  · rintro (same | same)
    · exact other _ (by decide) same
    · exact other _ (by decide) same

/-- A text without the letter of the named values is read as a float when it is a numeral. -/
theorem binary64_read?_eq_some {text : List Char} {number : Binary64}
    (plain : ∀ c ∈ text, c.toLower ≠ 'n') :
    Binary64.read? text = some number ↔ ∃ numeral, NumeralText text numeral ∧ numeral.toBinary64 = number := by
  cases split : splitSign text with
  | mk negative unsigned =>
    obtain ⟨sign, _, rfl⟩ := sign_of_splitSign split
    have unnamed : named? negative unsigned = none :=
      named?_eq_none negative fun c member => plain c (List.mem_append_right sign member)
    simp only [Binary64.read?, split, unnamed, Option.map_eq_some_iff, numeral_read?_eq_some]

end TextTemplate.Decimal
