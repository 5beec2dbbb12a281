import TextTemplate.Proofs.Expression.Acceptance
import TextTemplate.Proofs.Rows

/-! What is wrong with a segment that is no call. The faults are a grammar of their own, beside
that of the calls and like it without the readers: a fault stands at the first place where a
call, a list or a literal cannot go on, and what stands there decides which it is. -/
namespace TextTemplate.Expression

open Text

namespace Grammar

/-- What a number is attempted with behind its sign: digits, points and exponent marks, each mark
with a sign directly behind it or without. -/
inductive Attempt : List Char → Prop where
  | done : Attempt []
  | place (char : Digit c ∨ c = '.') (rest : Attempt text) : Attempt (c :: text)
  | mark (char : c = 'e' ∨ c = 'E') (rest : Attempt text) : Attempt (c :: text)
  | signed (char : c = 'e' ∨ c = 'E') (sign : s = '-' ∨ s = '+') (rest : Attempt text) :
      Attempt (c :: s :: text)

inductive SignedAttempt : List Char → Prop where
  | attempt (signed : Sign sign negative) (run : Attempt text) : SignedAttempt (sign ++ text)

/-- The longest attempt at a number with which a text begins. -/
structure LongestAttempt (text written : List Char) : Prop where
  attempt : SignedAttempt written
  begins : written <+: text
  longest : ∀ other, SignedAttempt other → other <+: text → other.length ≤ written.length

def Quote (c : Char) : Prop := c = '\x27' ∨ c = '"'

def NumberStart (c : Char) : Prop := Digit c ∨ c = '-' ∨ c = '+' ∨ c = '.'

/-- Why no literal can be read at the beginning of a text. A string is never closed when the text
ends in its body, or in a backslash that has nothing to protect. -/
inductive LiteralFault : List Char → ArgumentDefect → Prop where
  | nothing : LiteralFault [] .unclosedList
  | string (opens : Quote quote) (body : Body quote written denoted) (ends : rest = [] ∨ rest = ['\\']) :
      LiteralFault (quote :: written ++ rest) .unclosedString
  | number (starts : NumberStart c) (attempt : LongestAttempt (c :: rest) written)
      (vain : ∀ value, ¬ LiteralText written value) :
      LiteralFault (c :: rest) (.badNumber (String.ofList written))
  | missing (early : c = ')' ∨ c = ',') : LiteralFault (c :: rest) .missingLiteral
  | other (unquoted : ¬ Quote c) (unnumbered : ¬ NumberStart c) (late : ¬ (c = ')' ∨ c = ',')) :
      LiteralFault (c :: rest) (.notLiteral c)

/-- The first place where a list of literals cannot go on. -/
inductive ListFault : List Char → ArgumentDefect → Prop where
  | literal (gap : Blanks before) (shown : EndsRun isBlank text) (fault : LiteralFault text defect) :
      ListFault (before ++ text) defect
  | unclosed (gap : Blanks before) (literal : LiteralText written value) (after : Blanks rest) :
      ListFault (before ++ written ++ rest) .unclosedList
  | separator (gap : Blanks before) (literal : LiteralText written value) (after : Blanks behind)
      (apart : Apart value (behind ++ c :: rest)) (shown : isBlank c = false) (other : ¬ (c = ')' ∨ c = ',')) :
      ListFault (before ++ written ++ behind ++ c :: rest) (.notSeparator c)
  | closed (gap : Blanks before) (literal : LiteralText written value) (after : Blanks behind)
      (last : Blanks tail) (shown : isBlank c = false) :
      ListFault (before ++ written ++ behind ++ ')' :: (tail ++ c :: rest)) (.afterList c)
  | later (gap : Blanks before) (literal : LiteralText written value) (after : Blanks behind)
      (fault : ListFault text defect) : ListFault (before ++ written ++ behind ++ ',' :: text) defect

/-- What is wrong behind the opening parenthesis. A list is expected there unless it is closed at once. -/
inductive ArgumentsFault : List Char → ArgumentDefect → Prop where
  | closed (inner : Blanks between) (last : Blanks tail) (shown : isBlank c = false) :
      ArgumentsFault (between ++ ')' :: (tail ++ c :: rest)) (.afterList c)
  | list (opened : ∀ between rest, Blanks between → text ≠ between ++ ')' :: rest)
      (fault : ListFault text defect) : ArgumentsFault text defect

/-- A segment in three: the run before its first blank or opening parenthesis, the blanks that
follow, and what stands behind them. -/
structure Heading (segment name gap rest : List Char) : Prop where
  whole : segment = name ++ gap ++ rest
  run : ∀ c ∈ name, c ≠ '(' ∧ isBlank c = false
  ends : ∀ c, (gap ++ rest).head? = some c → c = '(' ∨ isBlank c = true
  blanks : Blanks gap
  shown : EndsRun isBlank rest

/-- The run at the head of a segment is no name, or something that is no list stands behind it. -/
def Misnamed (segment : List Char) : Prop :=
  ∃ name gap rest, Heading segment name gap rest ∧ (¬ NameText name ∨ ∃ c later, rest = c :: later ∧ c ≠ '(')

/-- What is wrong with a segment: how it is named, or else what stands in its parentheses. -/
inductive SegmentFault (segment : List Char) : Defect → Prop where
  | misnamed (bad : Misnamed segment) : SegmentFault segment (.invalidName (String.ofList segment))
  | malformed (heading : Heading segment name gap ('(' :: source)) (named : NameText name)
      (fault : ArgumentsFault source defect) :
      SegmentFault segment (.malformedArguments (String.ofList name) defect)

end Grammar

open Grammar
open Result (map_eq_error)

theorem Grammar.LongestAttempt.unique {text written other : List Char} (first : LongestAttempt text written)
    (second : LongestAttempt text other) : written = other := by
  have same := Nat.le_antisymm (second.longest written first.attempt first.begins)
    (first.longest other second.attempt second.begins)
  exact (List.prefix_of_prefix_length_le first.begins second.begins (Nat.le_of_eq same)).eq_of_length same

namespace Literal

open Decimal

theorem attempt_numberRun (text : List Char) : Attempt (numberRun text).1 := by
  fun_induction numberRun text with
  | case1 => exact .done
  | case2 c numeric =>
    simp only [Bool.or_eq_true, beq_iff_eq, isDigit_iff] at numeric
    rcases numeric with place | mark
    · exact .place place .done
    · exact .mark (by simpa [isExponentMark] using mark) .done
  | case3 => exact .done
  | case4 c d rest signed run after split ih =>
    rw [split] at ih
    simp only [Bool.and_eq_true, isExponentMark, isSign, Bool.or_eq_true, beq_iff_eq] at signed
    exact .signed signed.1 signed.2 ih
  | case5 c d rest _ numeric run after split ih =>
    rw [split] at ih
    simp only [Bool.or_eq_true, beq_iff_eq, isDigit_iff] at numeric
    rcases numeric with place | mark
    · exact .place place ih
    · exact .mark (by simpa [isExponentMark] using mark) ih
  | case6 => exact .done

theorem not_sign_of_attempt {c : Char} {text : List Char} (attempt : Attempt (c :: text)) : isSign c = false := by
  have marked (mark : c = 'e' ∨ c = 'E') : isSign c = false := by
    rcases mark with rfl | rfl
    · rfl
    · rfl
  cases attempt with
  | place char _ =>
    rcases char with digit | rfl
    · exact not_sign_of_digit digit
    · rfl
  | mark char _ => exact marked char
  | signed char _ _ => exact marked char

theorem length_le_numberRun {text : List Char} (attempt : Attempt text) (later : List Char) :
    text.length ≤ (numberRun (text ++ later)).1.length := by
  induction attempt with
  | done => exact Nat.zero_le _
  | @place c text char rest ih =>
    have single : Places [c] := by
      intro d member
      obtain rfl := List.mem_singleton.mp member
      exact char
    have run := numberRun_places single (text ++ later)
    rw [List.singleton_append] at run
    rw [List.cons_append, run]
    exact Nat.succ_le_succ ih
  | @mark c text char rest ih =>
    have marked : isExponentMark c = true := by simpa [isExponentMark] using char
    rw [List.cons_append]
    cases tail : text ++ later with
    | nil =>
      obtain ⟨rfl, rfl⟩ := List.append_eq_nil_iff.mp tail
      simp [numberRun, marked]
    | cons d tail' =>
      rw [tail] at ih
      by_cases sign : isSign d = true
      · -- The attempt cannot go on with a sign, so it has ended at the mark.
        cases text with
        | nil => simp [numberRun, marked, sign]
        | cons e text =>
          obtain ⟨rfl, _⟩ := List.cons.inj tail
          rw [not_sign_of_attempt rest] at sign
          cases sign
      · simp only [numberRun, marked, sign, Bool.true_and, Bool.or_true, Bool.false_eq_true, if_false, if_true]
        exact Nat.succ_le_succ ih
  | @signed c s text char sign rest ih =>
    have marked : isExponentMark c = true := by simpa [isExponentMark] using char
    have signed : isSign s = true := by simpa [isSign] using sign
    simp only [List.cons_append, numberRun, marked, signed, Bool.and_self, if_true]
    exact Nat.succ_le_succ (Nat.succ_le_succ ih)

/-- The text that is read as a number is the longest attempt at one. -/
theorem longestAttempt_numberText (text : List Char) : LongestAttempt text (numberText text).1 := by
  refine ⟨?_, ⟨_, numberText_append text⟩, ?_⟩
  · fun_cases numberText text with
    | case1 => exact .attempt .absent .done
    | case2 c rest signed run after split =>
      have attempt := attempt_numberRun rest
      rw [split] at attempt
      simp only [isSign, Bool.or_eq_true, beq_iff_eq] at signed
      rcases signed with rfl | rfl
      · exact .attempt .minus attempt
      · exact .attempt .plus attempt
    | case3 c rest _ => exact .attempt .absent (attempt_numberRun (c :: rest))
  · rintro _ ⟨signed, attempt⟩ ⟨later, rfl⟩
    rw [List.append_assoc]
    cases signed with
    | plus => exact Nat.succ_le_succ (length_le_numberRun attempt later)
    | minus => exact Nat.succ_le_succ (length_le_numberRun attempt later)
    | absent =>
      rw [List.nil_append, List.nil_append]
      have bound := length_le_numberRun attempt later
      rename_i run
      cases run with
      | nil => exact Nat.zero_le _
      | cons c run =>
        rw [List.cons_append] at bound ⊢
        rw [numberText, not_sign_of_attempt attempt]
        exact bound

theorem readString_eq_error {quote : Char} {text : List Char} {defect : ArgumentDefect} :
    readString quote text = .error defect ↔ defect = .unclosedString ∧
      ∃ written denoted rest, Body quote written denoted ∧ (rest = [] ∨ rest = ['\\']) ∧ text = written ++ rest := by
  constructor
  · intro failure
    fun_induction readString quote text with
    | case1 =>
      cases failure
      exact ⟨rfl, [], [], [], .done, .inl rfl, rfl⟩
    | case2 =>
      cases failure
      exact ⟨rfl, [], [], ['\\'], .done, .inr rfl, rfl⟩
    | case3 c text ih =>
      obtain ⟨same, written, denoted, rest, body, ends, rfl⟩ := ih (map_eq_error.mp failure)
      exact ⟨same, _, _, rest, body_pair c body, ends, rfl⟩
    | case4 => cases failure
    | case5 c text lone pair inside ih =>
      have different : c ≠ '\\' := by
        intro backslash
        cases text with
        | nil => exact lone backslash rfl
        | cons d text => exact pair d text backslash rfl
      obtain ⟨same, written, denoted, rest, body, ends, rfl⟩ := ih (map_eq_error.mp failure)
      exact ⟨same, _, _, rest, .plain different inside body, ends, rfl⟩
  · rintro ⟨rfl, written, denoted, rest, body, ends, rfl⟩
    induction body with
    | done =>
      rcases ends with rfl | rfl
      · rfl
      · rfl
    | plain different inside _ ih =>
      rw [List.cons_append, readString_plain different, if_neg inside, ih]
      rfl
    | escaped _ _ ih =>
      rw [List.cons_append, List.cons_append, readString_pair, ih]
      rfl
    | line _ ih =>
      rw [List.cons_append, List.cons_append, readString_pair, ih]
      rfl
    | tab _ ih =>
      rw [List.cons_append, List.cons_append, readString_pair, ih]
      rfl
    | kept _ _ ih =>
      rw [List.cons_append, List.cons_append, readString_pair, ih]
      rfl

theorem startsNumber_iff {c : Char} : startsNumber c = true ↔ NumberStart c := by
  simp only [startsNumber, isSign, NumberStart, Bool.or_eq_true, beq_iff_eq, isDigit_iff, or_assoc]

theorem readNumber_eq_error {text : List Char} {defect : ArgumentDefect} :
    readNumber text = .error defect ↔
      (∀ value, ¬ LiteralText (numberText text).1 value) ∧ defect = .badNumber (String.ofList (numberText text).1) := by
  constructor
  · intro failure
    refine ⟨fun value derived => ?_, ?_⟩
    · rw [readNumber_eq_ok.mpr ⟨derived, rfl⟩] at failure
      cases failure
    · simp only [readNumber] at failure
      split at failure
      · cases failure
      · cases failure
        rfl
  · rintro ⟨vain, rfl⟩
    cases read : readNumber text with
    | ok result => exact absurd (readNumber_eq_ok.mp read).1 (vain result.1)
    | error other =>
      simp only [readNumber] at read
      split at read
      · cases read
      · exact read.symm

/-- No literal is read exactly where the grammar has a fault, and for the reason that it gives. -/
theorem read_eq_error {text : List Char} {defect : ArgumentDefect} :
    read text = .error defect ↔ LiteralFault text defect := by
  constructor
  · intro failure
    cases text with
    | nil =>
      cases failure
      exact .nothing
    | cons c rest =>
      simp only [read] at failure
      by_cases opens : isQuote c = true
      · rw [if_pos opens] at failure
        obtain ⟨rfl, written, denoted, last, body, ends, rfl⟩ := readString_eq_error.mp (map_eq_error.mp failure)
        exact .string (isQuote_iff.mp opens) body ends
      · rw [if_neg opens] at failure
        by_cases starts : startsNumber c = true
        · rw [if_pos starts] at failure
          obtain ⟨vain, rfl⟩ := readNumber_eq_error.mp failure
          exact .number (startsNumber_iff.mp starts) (longestAttempt_numberText _) vain
        · rw [if_neg starts] at failure
          by_cases early : c = ')' ∨ c = ','
          · rw [if_pos early] at failure
            cases failure
            exact .missing early
          · rw [if_neg early] at failure
            cases failure
            exact .other (mt isQuote_iff.mpr opens) (mt startsNumber_iff.mpr starts) early
  · intro fault
    cases fault with
    | nothing => rfl
    | @string quote written denoted rest opens body ends =>
      have failure : readString quote (written ++ rest) = .error .unclosedString :=
        readString_eq_error.mpr ⟨rfl, written, denoted, rest, body, ends, rfl⟩
      rw [List.cons_append, read, if_pos (isQuote_iff.mpr opens), failure]
      rfl
    | @number c rest written starts attempt vain =>
      obtain rfl := attempt.unique (longestAttempt_numberText (c :: rest))
      rw [read_eq_readNumber (startsNumber_iff.mpr starts)]
      exact readNumber_eq_error.mpr ⟨vain, rfl⟩
    | @missing c rest early =>
      rcases early with rfl | rfl
      · rfl
      · rfl
    | other unquoted unnumbered late =>
      rw [read, if_neg (mt isQuote_iff.mp unquoted), if_neg (mt startsNumber_iff.mp unnumbered), if_neg late]

end Literal

namespace Arguments

theorem close_eq_error {values : List Value} {text : List Char} {defect : ArgumentDefect} :
    close values text = .error defect ↔
      ∃ gap c rest, Blanks gap ∧ isBlank c = false ∧ text = gap ++ c :: rest ∧ defect = .afterList c := by
  obtain ⟨gap, blanks, whole⟩ := exists_blanks_trimStart text
  constructor
  · intro failure
    unfold close at failure
    split at failure
    · cases failure
    · rename_i c rest start
      cases failure
      have shown : isBlank c = false := endsRun_dropWhile isBlank text c (by rw [← trimStart, start]; rfl)
      rw [start] at whole
      exact ⟨gap, c, rest, blanks, shown, whole, rfl⟩
  · rintro ⟨gap, c, rest, blanks, shown, rfl, rfl⟩
    rw [close, trimStart_blanks blanks, trimStart_eq_self (endsRun_cons shown rest)]

theorem readList_fails {text : List Char} {defect : ArgumentDefect}
    (failure : Literal.read (trimStart text) = .error defect) : readList text = .error defect := by
  rw [readList]
  split
  · rename_i read
    rw [failure] at read
    cases read
    rfl
  · rename_i read
    rw [failure] at read
    cases read

theorem readList_ends {text rest : List Char} {value : Value}
    (literal : Literal.read (trimStart text) = .ok (value, rest)) (nothing : trimStart rest = []) :
    readList text = .error .unclosedList := by
  rw [readList]
  split
  · rename_i failed
    rw [literal] at failed
    cases failed
  · rename_i read
    rw [literal] at read
    cases read
    split
    · rfl
    · rename_i found
      rw [nothing] at found
      cases found

/-- A list fails at the first place where the grammar cannot go on with it. -/
theorem readList_eq_error {text : List Char} {defect : ArgumentDefect} :
    readList text = .error defect ↔ ListFault text defect := by
  constructor
  · intro failure
    -- Every way for the reader to stop is a fault of the list; only behind a comma it goes on.
    fun_induction readList text with
    | case1 text other literal =>
      cases failure
      obtain ⟨before, front, whole⟩ := exists_blanks_trimStart text
      rw [whole]
      exact .literal front (endsRun_dropWhile isBlank text) (Literal.read_eq_error.mp literal)
    | case2 text value rest literal nothing =>
      cases failure
      obtain ⟨before, written, gap, front, derived, blanks, _, whole⟩ := literal_of_read literal
      rw [whole, nothing, List.append_nil]
      exact .unclosed front derived blanks
    | case3 text value rest literal after separator _ ih =>
      obtain ⟨before, written, gap, front, derived, blanks, _, whole⟩ := literal_of_read literal
      rw [whole, separator]
      exact .later front derived blanks (ih (map_eq_error.mp failure))
    | case4 text value rest literal after separator _ _ =>
      obtain ⟨before, written, gap, front, derived, blanks, _, whole⟩ := literal_of_read literal
      obtain ⟨last, c, tail, spaces, shown, rfl, rfl⟩ := close_eq_error.mp failure
      rw [whole, separator]
      exact .closed front derived blanks spaces shown
    | case5 text value rest literal c after separator _ comma close =>
      cases failure
      obtain ⟨before, written, gap, front, derived, blanks, apart, whole⟩ := literal_of_read literal
      have shown : isBlank c = false := endsRun_dropWhile isBlank rest c (by rw [← trimStart, separator]; rfl)
      rw [separator] at apart
      rw [whole, separator]
      exact .separator front derived blanks apart shown (not_or.mpr ⟨close, comma⟩)
  · intro fault
    induction fault with
    | @literal before text defect gap shown fault =>
      refine readList_fails ?_
      rw [trimStart_blanks gap, trimStart_eq_self shown]
      exact Literal.read_eq_error.mpr fault
    | @unclosed before written value rest gap literal after =>
      refine readList_ends (read_literal gap literal ?_) (trimStart_of_blanks after)
      exact Literal.apart_of_ends (endsRun_blanks after fun _ blank => not_numeric_of_blank blank) value
    | separator gap literal after apart shown other =>
      rw [readList_separated gap literal after shown apart, if_neg fun comma => other (.inr comma),
        if_neg fun close => other (.inl close)]
    | @closed before written value behind tail c rest gap literal after last shown =>
      rw [readList_separated gap literal after (by decide) (apart_gap after (by decide) _), if_neg (by decide),
        if_pos rfl]
      exact close_eq_error.mpr ⟨tail, c, rest, last, shown, rfl, rfl⟩
    | later gap literal after _ ih =>
      rw [readList_separated gap literal after (by decide) (apart_gap after (by decide) _), if_pos rfl, ih]
      rfl

theorem readList_trimStart (text : List Char) : readList (trimStart text) = readList text := by
  have again : trimStart (trimStart text) = trimStart text := trimStart_eq_self (endsRun_dropWhile isBlank text)
  cases literal : Literal.read (trimStart text) with
  | error defect => rw [readList_fails literal, readList_fails (again.symm ▸ literal)]
  | ok result =>
    obtain ⟨value, rest⟩ := result
    cases separator : trimStart rest with
    | nil => rw [readList_ends literal separator, readList_ends (again.symm ▸ literal) separator]
    | cons c after => rw [readList_literal literal separator, readList_literal (again.symm ▸ literal) separator]

theorem read_eq_error {text : List Char} {defect : ArgumentDefect} :
    read text = .error defect ↔ ArgumentsFault text defect := by
  obtain ⟨gap, blanks, whole⟩ := exists_blanks_trimStart text
  constructor
  · intro failure
    unfold read at failure
    split at failure
    · rename_i rest start
      obtain ⟨tail, c, later, last, shown, rfl, rfl⟩ := close_eq_error.mp failure
      rw [start] at whole
      exact whole ▸ .closed blanks last shown
    · rename_i opened
      rw [readList_trimStart] at failure
      refine .list (fun between rest inner closed => opened rest ?_) (readList_eq_error.mp failure)
      rw [closed, trimStart_blanks inner, trimStart_eq_self (endsRun_cons (by decide) rest)]
  · intro fault
    cases fault with
    | @closed between tail c rest inner last shown =>
      rw [read, trimStart_blanks inner, trimStart_eq_self (endsRun_cons (by decide) _)]
      exact close_eq_error.mpr ⟨tail, c, rest, last, shown, rfl, rfl⟩
    | list opened fault =>
      unfold read
      split
      · rename_i rest start
        rw [start] at whole
        exact absurd whole (opened gap rest blanks)
      · rw [readList_trimStart]
        exact readList_eq_error.mpr fault

end Arguments

theorem exists_heading (segment : List Char) :
    ∃ gap, Heading segment (segment.takeWhile (!endsName ·)) gap (trimStart (segment.dropWhile (!endsName ·))) := by
  obtain ⟨gap, blanks, same⟩ := exists_blanks_trimStart (segment.dropWhile (!endsName ·))
  refine ⟨gap, ?_, fun c member => ?_, fun c first => ?_, blanks, endsRun_dropWhile isBlank _⟩
  · rw [List.append_assoc, ← same, List.takeWhile_append_dropWhile]
  · simpa [endsName] using of_mem_takeWhile member
  · rw [← same] at first
    simpa [endsName, or_iff_not_imp_left] using endsRun_dropWhile (!endsName ·) segment c first

theorem Grammar.Heading.parts {segment name gap rest : List Char} (heading : Heading segment name gap rest) :
    segment.takeWhile (!endsName ·) = name ∧ trimStart (segment.dropWhile (!endsName ·)) = rest := by
  have inside : ∀ c ∈ name, (!endsName c) = true := by
    intro c member
    simpa [endsName] using heading.run c member
  have ends : EndsRun (!endsName ·) (gap ++ rest) := by
    intro c first
    simpa [endsName, or_iff_not_imp_left] using heading.ends c first
  rw [heading.whole, List.append_assoc, takeWhile_run inside ends, dropWhile_run inside ends,
    trimStart_blanks heading.blanks, trimStart_eq_self heading.shown]
  exact ⟨rfl, rfl⟩

theorem heading_of_name {name gap : List Char} (named : NameText name) (blanks : Blanks gap) (source : List Char) :
    Heading (name ++ gap ++ '(' :: source) name gap ('(' :: source) := by
  refine ⟨rfl, fun c member => ?_, fun c first => ?_, blanks, endsRun_cons (by decide) source⟩
  · simpa [endsName] using visible_of_nameText named c member
  · cases gap with
    | nil =>
      obtain rfl := Option.some.inj first
      exact .inl rfl
    | cons d gap =>
      obtain rfl := Option.some.inj first
      exact .inr (blanks d List.mem_cons_self)

theorem readCall_misnamed {segment : List Char} (bad : Misnamed segment) :
    readCall segment = .error (.invalidName (String.ofList segment)) := by
  obtain ⟨name, gap, rest, heading, bad⟩ := bad
  simp only [readCall, heading.parts]
  rcases bad with bad | ⟨c, later, rfl, different⟩
  · rw [if_neg (mt isName_iff.mp bad)]
  · split
    · split
      · rename_i same
        cases same
      · rename_i same
        exact absurd (List.cons.inj same).1 different
      · rfl
    · rfl

theorem readCall_eq_error {segment : List Char} {defect : Defect} :
    readCall segment = .error defect ↔ SegmentFault segment defect := by
  constructor
  · intro failure
    obtain ⟨gap, heading⟩ := exists_heading segment
    simp only [readCall] at failure
    split at failure
    · rename_i named
      split at failure
      · cases failure
      · rename_i source opened
        rw [opened] at heading
        split at failure
        · cases failure
        · rename_i reason failed
          cases failure
          exact .malformed heading (isName_iff.mp named) (Arguments.read_eq_error.mp failed)
      · rename_i other more
        cases failure
        obtain ⟨c, later, same⟩ := List.exists_cons_of_ne_nil other
        refine .misnamed ⟨_, gap, _, heading, .inr ⟨c, later, same, ?_⟩⟩
        rintro rfl
        exact more later same
    · rename_i unnamed
      cases failure
      exact .misnamed ⟨_, gap, _, heading, .inl (mt isName_iff.mpr unnamed)⟩
  · intro fault
    cases fault with
    | misnamed bad => exact readCall_misnamed bad
    | malformed heading named fault =>
      simp only [readCall, heading.parts, isName_iff.mpr named, if_true, Arguments.read_eq_error.mpr fault]

theorem Grammar.SegmentFault.unique {segment : List Char} {defect other : Defect}
    (first : SegmentFault segment defect) (second : SegmentFault segment other) : defect = other := by
  have failure := readCall_eq_error.mpr first
  rw [readCall_eq_error.mpr second] at failure
  exact (Except.error.inj failure).symm

def IsCall (segment : List Char) : Prop := ∃ call, CallText (trim segment) call

theorem not_isCall_iff {segment : List Char} : ¬ IsCall segment ↔ ∃ defect, SegmentFault (trim segment) defect := by
  simp only [IsCall, ← readCall_trim_eq_ok, ← readCall_eq_error]
  cases readCall (trim segment) <;> simp

theorem readCalls_eq_error {segments : List (List Char)} {defect : Defect} :
    readCalls segments = .error defect ↔
      ∃ segment, Rows.First IsCall segments segment ∧ SegmentFault (trim segment) defect := by
  induction segments with
  | nil => simp [readCalls, Rows.not_first_nil]
  | cons segment segments ih =>
    simp only [readCalls, Rows.first_cons]
    cases read : readCall (trim segment) with
    | error other =>
      have fault := readCall_eq_error.mp read
      have bad := not_isCall_iff.mpr ⟨other, fault⟩
      constructor
      · intro failure
        cases failure
        exact ⟨segment, .inl ⟨bad, rfl⟩, fault⟩
      · rintro ⟨_, ⟨_, rfl⟩ | ⟨own, _⟩, again⟩
        · rw [fault.unique again]
        · exact absurd own bad
    | ok call =>
      have own : IsCall segment := ⟨call, readCall_trim_eq_ok.mp read⟩
      rw [map_eq_error, ih]
      simp [own]

/-- A content is no expression when one of its segments is no call, and the first of these decides why. -/
theorem read_eq_error {content : List Char} {defect : Defect} :
    read content = .error defect ↔
      ∃ first later segment, Pipeline.IsCut .outside content first later ∧ Rows.First IsCall later segment ∧
        SegmentFault (trim segment) defect := by
  rw [read, map_eq_error, readCalls_eq_error]
  constructor
  · rintro ⟨segment, bad, fault⟩
    exact ⟨_, _, segment, Pipeline.split_eq_iff.mp rfl, bad, fault⟩
  · rintro ⟨first, later, segment, cut, bad, fault⟩
    rw [Pipeline.split_eq_iff.mpr cut]
    exact ⟨segment, bad, fault⟩

/-- A content is an expression when every segment behind its key is a call. -/
def IsExpression (content : List Char) : Prop :=
  ∃ first later, Pipeline.IsCut .outside content first later ∧ ∀ segment ∈ later, IsCall segment

theorem isExpression_iff {content : List Char} :
    IsExpression content ↔ ∃ expression, read content = .ok expression := by
  constructor
  · rintro ⟨first, later, cut, all⟩
    obtain ⟨calls, derived⟩ := exists_forall₂_iff.mpr all
    refine ⟨_, read_eq_ok.mpr ⟨calls, ?_, rfl⟩⟩
    rw [Pipeline.split_eq_iff.mpr cut]
    exact readCalls_eq_ok.mpr derived
  · rintro ⟨expression, success⟩
    obtain ⟨calls, accepted, _⟩ := read_eq_ok.mp success
    exact ⟨_, _, Pipeline.split_eq_iff.mp rfl, exists_forall₂_iff.mp ⟨calls, readCalls_eq_ok.mp accepted⟩⟩

theorem not_isExpression_iff {content : List Char} :
    ¬ IsExpression content ↔ ∃ defect, read content = .error defect := by
  rw [isExpression_iff]
  cases read content with
  | error defect => simp
  | ok expression => simp

end TextTemplate.Expression
