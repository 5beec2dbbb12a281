import TextTemplate.Proofs.Expression.Numeral
import TextTemplate.Proofs.Result

/-! A literal is read exactly as the grammar derives it, and the reader stops where the
literal ends. -/
namespace TextTemplate.Expression.Literal

open Decimal
open Expression.Grammar
open Result (map_eq_ok)
open Text

theorem isQuote_iff {c : Char} : isQuote c = true ↔ c = '\x27' ∨ c = '"' := by
  simp only [isQuote, Bool.or_eq_true, beq_iff_eq]

theorem body_pair {quote : Char} {written denoted : List Char} (c : Char)
    (rest : Body quote written denoted) : Body quote ('\\' :: c :: written) (unescape c ++ denoted) := by
  unfold unescape
  split
  · rename_i special
    exact .escaped (by simpa [isQuote_iff] using special) rest
  · rename_i ordinary
    split
    · rename_i line
      exact line ▸ .line rest
    · split
      · rename_i tab
        exact tab ▸ .tab rest
      · rename_i newline tab
        simp only [isQuote_iff, not_or] at ordinary
        exact .kept (by simp [ordinary, newline, tab]) rest

theorem readString_pair (quote c : Char) (rest : List Char) :
    readString quote ('\\' :: c :: rest) =
      (readString quote rest).map fun (body, after) => (unescape c ++ body, after) := by
  rw [readString]

theorem readString_plain {quote c : Char} (different : c ≠ '\\') (rest : List Char) :
    readString quote (c :: rest) =
      if c = quote then .ok ([], rest)
      else (readString quote rest).map fun (body, after) => (c :: body, after) := by
  rw [readString]
  · simp [different]
  · simp [different]

private theorem body_of_readString {quote : Char} {text denoted rest : List Char}
    (success : readString quote text = .ok (denoted, rest)) :
    ∃ written, Body quote written denoted ∧ text = written ++ quote :: rest := by
  fun_induction readString quote text generalizing denoted with
  | case1 => cases success
  | case2 => cases success
  | case3 c text ih =>
    obtain ⟨⟨inner, after⟩, found, same⟩ := map_eq_ok.mp success
    cases same
    obtain ⟨written, body, rfl⟩ := ih found
    exact ⟨'\\' :: c :: written, body_pair c body, rfl⟩
  | case4 =>
    cases success
    exact ⟨[], .done, rfl⟩
  | case5 c text lone pair inside ih =>
    have different : c ≠ '\\' := by
      intro backslash
      cases text with
      | nil => exact lone backslash rfl
      | cons d text => exact pair d text backslash rfl
    obtain ⟨⟨inner, after⟩, found, same⟩ := map_eq_ok.mp success
    cases same
    obtain ⟨written, body, rfl⟩ := ih found
    exact ⟨c :: written, .plain different inside body, rfl⟩

private theorem readString_of_body {quote : Char} {written denoted : List Char}
    (opens : quote = '\x27' ∨ quote = '"') (body : Body quote written denoted) (rest : List Char) :
    readString quote (written ++ quote :: rest) = .ok (denoted, rest) := by
  induction body with
  | done =>
    rw [List.nil_append, readString_plain (by rcases opens with rfl | rfl <;> decide), if_pos rfl]
  | plain different inside _ ih =>
    rw [List.cons_append, readString_plain different, if_neg inside, ih]
    rfl
  | @escaped c _ _ special _ ih =>
    have itself : unescape c = [c] := by rw [unescape, if_pos (by simpa [isQuote_iff] using special)]
    rw [List.cons_append, List.cons_append, readString_pair, ih, itself]
    rfl
  | line _ ih =>
    rw [List.cons_append, List.cons_append, readString_pair, ih]
    rfl
  | tab _ ih =>
    rw [List.cons_append, List.cons_append, readString_pair, ih]
    rfl
  | @kept c _ _ unknown _ ih =>
    have both : unescape c = ['\\', c] := by
      simp only [List.mem_cons, List.not_mem_nil, or_false, not_or] at unknown
      simp [unescape, isQuote_iff, unknown]
    rw [List.cons_append, List.cons_append, readString_pair, ih, both]
    rfl

theorem readString_eq_ok {quote : Char} {text denoted rest : List Char}
    (opens : quote = '\x27' ∨ quote = '"') :
    readString quote text = .ok (denoted, rest) ↔
      ∃ written, Body quote written denoted ∧ text = written ++ quote :: rest := by
  constructor
  · exact body_of_readString
  · rintro ⟨written, body, rfl⟩
    exact readString_of_body opens body rest

/-- The characters of which a number goes on, signs behind an exponent mark aside. -/
def isNumeric (c : Char) : Bool := c.isDigit || c == '.' || isExponentMark c

theorem isNumeric_iff {c : Char} : isNumeric c = true ↔ Digit c ∨ c = '.' ∨ c = 'e' ∨ c = 'E' := by
  simp only [isNumeric, isExponentMark, Bool.or_eq_true, beq_iff_eq, isDigit_iff, or_assoc]

theorem apart_of_ends {rest : List Char} (ends : EndsRun isNumeric rest) (value : Value) : Apart value rest := by
  right
  intro c first numeric
  rw [← isNumeric_iff, ends c first] at numeric
  cases numeric

theorem numberRun_of_ends {text : List Char} (ends : EndsRun isNumeric text) :
    numberRun text = ([], text) := by
  cases text with
  | nil => rfl
  | cons c rest =>
    have other : isNumeric c = false := ends c rfl
    simp only [isNumeric, Bool.or_eq_false_iff] at other
    cases rest with
    | nil => simp [numberRun, other]
    | cons d rest => simp [numberRun, other]

def Places (text : List Char) : Prop := ∀ c ∈ text, Digit c ∨ c = '.'

theorem not_mark_of_digit {c : Char} (digit : Digit c) : isExponentMark c = false := by
  rw [isExponentMark, beq_false_of_ne (ne_of_digit digit rfl), beq_false_of_ne (ne_of_digit digit rfl), Bool.or_false]

theorem numberRun_places {run : List Char} (places : Places run) (rest : List Char) :
    numberRun (run ++ rest) = (run ++ (numberRun rest).1, (numberRun rest).2) := by
  induction run with
  | nil => rfl
  | cons c run ih =>
    have continued := ih fun d member => places d (List.mem_cons_of_mem c member)
    have here : (c.isDigit || c == '.') = true := by
      simpa [isDigit_iff] using places c List.mem_cons_self
    have unmarked : isExponentMark c = false := by
      rcases places c List.mem_cons_self with digit | rfl
      · exact not_mark_of_digit digit
      · decide
    rw [List.cons_append]
    cases tail : run ++ rest with
    | nil =>
      obtain ⟨rfl, rfl⟩ := List.append_eq_nil_iff.mp tail
      simp [numberRun, here]
    | cons d later =>
      rw [tail] at continued
      simp [numberRun, here, unmarked, continued]

theorem places_of_digits {digits : List Char} (run : Digits digits) : Places digits :=
  fun c member => .inl (run.2 c member)

theorem numberRun_exponent {exponent rest : List Char} {scale : Int}
    (power : Exponent exponent scale) (ends : EndsRun isNumeric rest) :
    numberRun (exponent ++ rest) = (exponent, rest) := by
  cases power with
  | absent => exact numberRun_of_ends ends
  | @power c _ _ mark whole =>
    have marked : isExponentMark c = true := by rcases mark with rfl | rfl <;> rfl
    obtain ⟨signed, run⟩ := whole
    have digits := numberRun_places (places_of_digits run) rest
    rw [numberRun_of_ends ends, List.append_nil] at digits
    cases signed with
    | plus => simp [numberRun, marked, isSign, digits]
    | minus => simp [numberRun, marked, isSign, digits]
    | absent =>
      obtain ⟨nonempty, digit⟩ := run
      obtain ⟨d, later, rfl⟩ := List.exists_cons_of_ne_nil nonempty
      have unsigned := not_sign_of_digit (digit d List.mem_cons_self)
      rw [List.cons_append] at digits
      simp [numberRun, marked, unsigned, digits]

/-- An unsigned run of a number goes on behind its sign. -/
theorem numberText_sign {sign run rest : List Char} {negative : Bool} (signed : Sign sign negative)
    (bare : EndsRun isSign (run ++ rest)) (read : numberRun (run ++ rest) = (run, rest)) :
    numberText (sign ++ run ++ rest) = (sign ++ run, rest) := by
  cases signed with
  | plus => simp [numberText, isSign, read]
  | minus => simp [numberText, isSign, read]
  | absent =>
    rw [List.nil_append]
    cases text : run ++ rest with
    | nil =>
      obtain ⟨rfl, rfl⟩ := List.append_eq_nil_iff.mp text
      rfl
    | cons c later =>
      have unsigned := bare c (by rw [text]; rfl)
      rw [text] at read
      simp [numberText, unsigned, read]

theorem numberText_whole {written rest : List Char} {number : Int} (whole : WholeText written number)
    (ends : EndsRun isNumeric rest) : numberText (written ++ rest) = (written, rest) := by
  obtain ⟨signed, run⟩ := whole
  have digits := numberRun_places (places_of_digits run) rest
  rw [numberRun_of_ends ends, List.append_nil] at digits
  exact numberText_sign signed (bare_of_digits run rest) digits

theorem places_of_mantissa {written digits : List Char} {places : Nat}
    (mantissa : Mantissa written digits places) : Places written := by
  cases mantissa with
  | whole run => exact places_of_digits run
  | pointed run after =>
    intro c member
    simp only [List.mem_append, List.mem_cons] at member
    rcases member with before | point | behind
    · exact .inl (run.2 c before)
    · exact .inr point
    · exact .inl (after c behind)
  | fraction run =>
    intro c member
    rcases List.mem_cons.mp member with point | behind
    · exact .inr point
    · exact .inl (run.2 c behind)

theorem numberText_numeral {text rest : List Char} {numeral : Numeral}
    (derived : NumeralText text numeral) (ends : EndsRun isNumeric rest) :
    numberText (text ++ rest) = (text, rest) := by
  cases derived with
  | @numeral sign _ written _ _ exponent _ signed mantissa power =>
    have run := numberRun_places (places_of_mantissa mantissa) (exponent ++ rest)
    rw [numberRun_exponent power ends, ← List.append_assoc] at run
    have bare := bare_of_mantissa mantissa (exponent ++ rest)
    rw [← List.append_assoc] at bare
    have split := numberText_sign signed bare run
    simpa only [List.append_assoc] using split

/-- A character that a number can be written with. -/
def isNumberChar (c : Char) : Bool := isNumeric c || isSign c

theorem numberRun_chars (text : List Char) : ∀ c ∈ (numberRun text).1, isNumberChar c = true := by
  fun_induction numberRun text with
  | case1 => simp
  | case2 c numeric =>
    intro d member
    obtain rfl := List.mem_singleton.mp member
    simp only [isNumberChar, isNumeric, numeric, Bool.true_or]
  | case3 => simp
  | case4 c d rest signed run after split ih =>
    simp only [Bool.and_eq_true] at signed
    rw [split] at ih
    intro e member
    rcases List.mem_cons.mp member with rfl | member
    · simp [isNumberChar, isNumeric, signed.1]
    · rcases List.mem_cons.mp member with rfl | member
      · simp [isNumberChar, signed.2]
      · exact ih e member
  | case5 c d rest _ numeric run after split ih =>
    rw [split] at ih
    intro e member
    rcases List.mem_cons.mp member with rfl | member
    · simp only [isNumberChar, isNumeric, numeric, Bool.true_or]
    · exact ih e member
  | case6 => simp

theorem numberText_chars (text : List Char) : ∀ c ∈ (numberText text).1, isNumberChar c = true := by
  fun_cases numberText text with
  | case1 => simp
  | case2 c rest signed run after split =>
    have chars := numberRun_chars rest
    rw [split] at chars
    intro d member
    rcases List.mem_cons.mp member with rfl | member
    · simp [isNumberChar, signed]
    · exact chars d member
  | case3 c rest _ => exact numberRun_chars (c :: rest)

theorem toLower_of_digit {c : Char} (digit : Digit c) : c.toLower = c := by
  unfold Char.toLower
  split
  · rename_i upper
    have above : '9'.val < c.val := UInt32.lt_of_lt_of_le (by decide) upper.1
    exact absurd above (UInt32.not_lt.mpr digit.2)
  · rfl

theorem toLower_ne_of_isNumberChar {c : Char} (char : isNumberChar c = true) : c.toLower ≠ 'n' := by
  simp only [isNumberChar, isNumeric, isExponentMark, isSign, Bool.or_eq_true, beq_iff_eq] at char
  rcases char with ((digit | rfl) | (rfl | rfl)) | (rfl | rfl)
  · rw [toLower_of_digit (isDigit_iff.mp digit)]
    rintro rfl
    exact absurd digit (by decide)
  all_goals decide

theorem chars_of_whole {written : List Char} {number : Int} (whole : WholeText written number) :
    ∀ c ∈ written, (c == '.' || isExponentMark c) = false := by
  obtain ⟨signed, run⟩ := whole
  intro c member
  rcases List.mem_append.mp member with sign | digit
  · cases signed with
    | absent => cases sign
    | plus =>
      obtain rfl := List.mem_singleton.mp sign
      decide
    | minus =>
      obtain rfl := List.mem_singleton.mp sign
      decide
  · have here := run.2 c digit
    rw [not_mark_of_digit here, Bool.or_false, beq_eq_false_iff_ne]
    rintro rfl
    exact absurd (isDigit_iff.mpr here) (by decide)

theorem readNumber_eq_ok {text rest : List Char} {value : Value} :
    readNumber text = .ok (value, rest) ↔ LiteralText (numberText text).1 value ∧ (numberText text).2 = rest := by
  have chars := numberText_chars text
  constructor
  · intro success
    simp only [readNumber] at success
    split at success
    · rename_i read
      cases success
      refine ⟨?_, rfl⟩
      split at read
      · rename_i marked
        obtain ⟨number, found, rfl⟩ := Option.map_eq_some_iff.mp read
        obtain ⟨numeral, derived, rfl⟩ :=
          (binary64_read?_eq_some fun c member => toLower_ne_of_isNumberChar (chars c member)).mp found
        refine .float derived ?_
        simpa [List.any_eq_true, isExponentMark] using marked
      · obtain ⟨number, found, rfl⟩ := Option.map_eq_some_iff.mp read
        exact .integer number (readInt64?_eq_some.mp found)
    · cases success
  · rintro ⟨derived, rfl⟩
    generalize same : (numberText text).1 = written at chars derived
    cases derived with
    | string opens _ =>
      have quote := chars _ List.mem_cons_self
      rcases opens with rfl | rfl
      · exact absurd quote (by decide)
      · exact absurd quote (by decide)
    | integer number whole =>
      have unmarked : (written.any fun c => c == '.' || isExponentMark c) = false := by
        simpa only [List.any_eq_false, Bool.not_eq_true] using chars_of_whole whole
      simp only [readNumber, same, unmarked, readInt64?_eq_some.mpr whole, Bool.false_eq_true, if_false,
        Option.map_some]
    | float numeral marked =>
      have float : (written.any fun c => c == '.' || isExponentMark c) = true := by
        simpa [List.any_eq_true, isExponentMark] using marked
      have read := (binary64_read?_eq_some fun c member => toLower_ne_of_isNumberChar (chars c member)).mpr
        ⟨_, numeral, rfl⟩
      simp only [readNumber, same, float, read, if_true, Option.map_some]

theorem readNumber_whole {written rest : List Char} {number : Int64}
    (whole : WholeText written number.toInt) (ends : EndsRun isNumeric rest) :
    readNumber (written ++ rest) = .ok (.int number, rest) := by
  rw [readNumber_eq_ok, numberText_whole whole ends]
  exact ⟨.integer number whole, rfl⟩

theorem readNumber_numeral {written rest : List Char} {numeral : Numeral}
    (derived : NumeralText written numeral) (marked : ∃ c ∈ written, c = '.' ∨ c = 'e' ∨ c = 'E')
    (ends : EndsRun isNumeric rest) :
    readNumber (written ++ rest) = .ok (.float numeral.toBinary64, rest) := by
  rw [readNumber_eq_ok, numberText_numeral derived ends]
  exact ⟨.float derived marked, rfl⟩

theorem read_eq_readNumber {c : Char} (starts : startsNumber c = true) (rest : List Char) :
    read (c :: rest) = readNumber (c :: rest) := by
  have unquoted : isQuote c = false := by
    apply Bool.eq_false_iff.mpr
    intro quote
    rcases isQuote_iff.mp quote with rfl | rfl
    · exact absurd starts (by decide)
    · exact absurd starts (by decide)
  simp [read, unquoted, starts]

theorem startsNumber_of_sign {sign run : List Char} {negative : Bool} (signed : Sign sign negative)
    (starts : ∃ c rest, run = c :: rest ∧ startsNumber c = true) :
    ∃ c rest, sign ++ run = c :: rest ∧ startsNumber c = true := by
  cases signed with
  | absent => exact starts
  | plus => exact ⟨'+', run, rfl, rfl⟩
  | minus => exact ⟨'-', run, rfl, rfl⟩

theorem startsNumber_of_digits {digits : List Char} (run : Digits digits) (later : List Char) :
    ∃ c rest, digits ++ later = c :: rest ∧ startsNumber c = true := by
  obtain ⟨nonempty, digit⟩ := run
  obtain ⟨c, rest, rfl⟩ := List.exists_cons_of_ne_nil nonempty
  exact ⟨c, rest ++ later, rfl, by simp [startsNumber, isDigit_iff.mpr (digit c List.mem_cons_self)]⟩

theorem startsNumber_of_whole {written : List Char} {number : Int} (whole : WholeText written number)
    (later : List Char) : ∃ c rest, written ++ later = c :: rest ∧ startsNumber c = true := by
  obtain ⟨signed, run⟩ := whole
  rw [List.append_assoc]
  exact startsNumber_of_sign signed (startsNumber_of_digits run later)

theorem startsNumber_of_numeral {written : List Char} {numeral : Numeral}
    (derived : NumeralText written numeral) (later : List Char) :
    ∃ c rest, written ++ later = c :: rest ∧ startsNumber c = true := by
  obtain ⟨signed, mantissa, power⟩ := derived
  rw [List.append_assoc, List.append_assoc]
  apply startsNumber_of_sign signed
  cases mantissa with
  | whole run => exact startsNumber_of_digits run _
  | pointed run _ =>
    rw [List.append_assoc]
    exact startsNumber_of_digits run _
  | fraction _ => exact ⟨'.', _, rfl, rfl⟩

theorem endsRun_numberRun (text : List Char) : EndsRun isNumeric (numberRun text).2 := by
  fun_induction numberRun text with
  | case1 => exact endsRun_nil _
  | case2 => exact endsRun_nil _
  | case3 c other => exact endsRun_cons (Bool.eq_false_iff.mpr other) []
  | case4 c d rest _ run after split ih =>
    rw [split] at ih
    exact ih
  | case5 c d rest _ _ run after split ih =>
    rw [split] at ih
    exact ih
  | case6 c d rest _ other => exact endsRun_cons (Bool.eq_false_iff.mpr other) _

theorem endsRun_numberText (text : List Char) : EndsRun isNumeric (numberText text).2 := by
  fun_cases numberText text with
  | case1 => exact endsRun_nil _
  | case2 c rest _ run after split =>
    have ends := endsRun_numberRun rest
    rw [split] at ends
    exact ends
  | case3 c rest _ => exact endsRun_numberRun (c :: rest)

private theorem literalText_of_read {text rest : List Char} {value : Value}
    (success : read text = .ok (value, rest)) :
    ∃ written, LiteralText written value ∧ Apart value rest ∧ text = written ++ rest := by
  cases text with
  | nil => cases success
  | cons c text =>
    simp only [read] at success
    split at success
    · rename_i opens
      obtain ⟨⟨denoted, after⟩, found, same⟩ := map_eq_ok.mp success
      cases same
      obtain ⟨written, body, rfl⟩ := (readString_eq_ok (isQuote_iff.mp opens)).mp found
      exact ⟨c :: written ++ [c], .string (isQuote_iff.mp opens) body, .inl ⟨_, rfl⟩, by simp⟩
    · split at success
      · obtain ⟨derived, rfl⟩ := readNumber_eq_ok.mp success
        exact ⟨_, derived, apart_of_ends (endsRun_numberText _) value, (numberText_append _).symm⟩
      · split at success <;> cases success

private theorem read_of_literalText {written rest : List Char} {value : Value}
    (derived : LiteralText written value) (apart : Apart value rest) :
    read (written ++ rest) = .ok (value, rest) := by
  have ends (number : ∀ content, value ≠ .str content) : EndsRun isNumeric rest := by
    rcases apart with ⟨content, string⟩ | ends
    · exact absurd string (number content)
    · intro c first
      exact Bool.eq_false_iff.mpr fun numeric => ends c first (isNumeric_iff.mp numeric)
  cases derived with
  | @string quote body denoted opens derived =>
    have found : readString quote (body ++ quote :: rest) = .ok (denoted, rest) :=
      (readString_eq_ok opens).mpr ⟨body, derived, rfl⟩
    have shape : quote :: body ++ [quote] ++ rest = quote :: (body ++ quote :: rest) := by simp
    rw [shape, read, if_pos (isQuote_iff.mpr opens), found]
    rfl
  | integer number whole =>
    have taken := readNumber_whole whole (ends fun content same => by cases same)
    obtain ⟨c, later, same, starts⟩ := startsNumber_of_whole whole rest
    rw [same] at taken ⊢
    rw [read_eq_readNumber starts, taken]
  | float numeral marked =>
    have taken := readNumber_numeral numeral marked (ends fun content same => by cases same)
    obtain ⟨c, later, same, starts⟩ := startsNumber_of_numeral numeral rest
    rw [same] at taken ⊢
    rw [read_eq_readNumber starts, taken]

/-- What a literal reader takes is a literal, and what it leaves does not go on with that. -/
theorem read_eq_ok {text rest : List Char} {value : Value} :
    read text = .ok (value, rest) ↔
      ∃ written, LiteralText written value ∧ Apart value rest ∧ text = written ++ rest := by
  constructor
  · exact literalText_of_read
  · rintro ⟨written, derived, apart, rfl⟩
    exact read_of_literalText derived apart

end TextTemplate.Expression.Literal
