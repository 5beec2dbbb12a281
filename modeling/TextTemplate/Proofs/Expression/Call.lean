import TextTemplate.Proofs.Expression.Literal

/-! Argument lists and calls are read exactly as the grammar derives them, with blanks
in front of a list and behind a call. -/
namespace TextTemplate.Expression

open Grammar
open Text
open Literal (isNumeric)
open Result (map_eq_ok)

theorem not_blank_of_visible {c : Char} (above : 33 ≤ c.toNat) (below : c.toNat ≤ 126) :
    isBlank c = false := by
  simp [isBlank, blankRanges]
  omega

theorem visible_of_digit {c : Char} (digit : Digit c) : 33 ≤ c.toNat ∧ c.toNat ≤ 126 := by
  have bounds : 48 ≤ c.toNat ∧ c.toNat ≤ 57 :=
    Char.isDigit_iff_toNat.mp (Decimal.isDigit_iff.mpr digit)
  omega

theorem visible_of_nameStart {c : Char} (start : NameStart c) : 33 ≤ c.toNat ∧ c.toNat ≤ 126 := by
  rcases start with ⟨low, high⟩ | ⟨low, high⟩ | rfl | rfl
  · have above : 65 ≤ c.toNat := low
    have below : c.toNat ≤ 90 := high
    omega
  · have above : 97 ≤ c.toNat := low
    have below : c.toNat ≤ 122 := high
    omega
  · decide
  · decide

theorem not_numeric_of_blank {c : Char} (blank : isBlank c = true) : isNumeric c = false := by
  apply Bool.eq_false_iff.mpr
  intro numeric
  simp only [isNumeric, Literal.isExponentMark, Bool.or_eq_true, beq_iff_eq] at numeric
  rcases numeric with (digit | rfl) | rfl | rfl
  · have visible := visible_of_digit (Decimal.isDigit_iff.mp digit)
    rw [not_blank_of_visible visible.1 visible.2] at blank
    cases blank
  all_goals exact absurd blank (by decide)

theorem endsRun_blanks {kind : Char → Bool} {gap : List Char} (blanks : Blanks gap)
    (apart : ∀ d, isBlank d = true → kind d = false) : EndsRun kind gap := by
  intro c first
  exact apart c (blanks c (List.mem_of_mem_head? first))

/-- A gap of blanks ends a run when its characters and the one behind it are no part of the run. -/
theorem endsRun_gap {kind : Char → Bool} {gap : List Char} {c : Char} (blanks : Blanks gap)
    (apart : ∀ d, isBlank d = true → kind d = false) (other : kind c = false) (rest : List Char) :
    EndsRun kind (gap ++ c :: rest) := by
  cases gap with
  | nil => exact endsRun_cons other rest
  | cons d gap => exact endsRun_cons (apart d (blanks d List.mem_cons_self)) _

theorem visible_of_literalText {written : List Char} {value : Value} (literal : LiteralText written value)
    (rest : List Char) : ∃ c later, written ++ rest = c :: later ∧ isBlank c = false ∧ c ≠ ')' := by
  have numeric {c : Char} (starts : Literal.startsNumber c = true) : isBlank c = false ∧ c ≠ ')' := by
    simp only [Literal.startsNumber, Literal.isSign, Bool.or_eq_true, beq_iff_eq] at starts
    rcases starts with (digit | rfl | rfl) | rfl
    · have visible := visible_of_digit (Decimal.isDigit_iff.mp digit)
      refine ⟨not_blank_of_visible visible.1 visible.2, ?_⟩
      rintro rfl
      exact absurd digit (by decide)
    all_goals decide
  cases literal with
  | string opens _ =>
    exact ⟨_, _, rfl, by rcases opens with rfl | rfl <;> decide, by rcases opens with rfl | rfl <;> decide⟩
  | integer number whole =>
    obtain ⟨c, later, same, starts⟩ := Literal.startsNumber_of_whole whole rest
    exact ⟨c, later, same, numeric starts⟩
  | float numeral _ =>
    obtain ⟨c, later, same, starts⟩ := Literal.startsNumber_of_numeral numeral rest
    exact ⟨c, later, same, numeric starts⟩

namespace Arguments

theorem close_eq_ok {values result : List Value} {text : List Char} :
    close values text = .ok result ↔ Blanks text ∧ values = result := by
  unfold close
  cases rest : trimStart text with
  | nil =>
    have blanks : Blanks text := by
      obtain ⟨gap, blanks, same⟩ := exists_blanks_trimStart text
      rw [rest, List.append_nil] at same
      exact same ▸ blanks
    simp [blanks]
  | cons c later =>
    have other : ¬ Blanks text := by
      intro blanks
      rw [trimStart_of_blanks blanks] at rest
      cases rest
    simp [other]

theorem literal_of_read {text rest : List Char} {value : Value}
    (literal : Literal.read (trimStart text) = .ok (value, rest)) :
    ∃ before written gap, Blanks before ∧ LiteralText written value ∧ Blanks gap ∧
      Apart value (gap ++ trimStart rest) ∧ text = before ++ written ++ gap ++ trimStart rest := by
  obtain ⟨written, derived, apart, same⟩ := Literal.read_eq_ok.mp literal
  obtain ⟨before, front, textEq⟩ := exists_blanks_trimStart text
  obtain ⟨gap, blanks, restEq⟩ := exists_blanks_trimStart rest
  refine ⟨before, written, gap, front, derived, blanks, restEq ▸ apart, ?_⟩
  rw [List.append_assoc (before ++ written), ← restEq, List.append_assoc, ← same]
  exact textEq

private theorem listText_of_readList {text : List Char} {values : List Value}
    (success : readList text = .ok values) :
    ∃ before written after, Blanks before ∧ ListText written values ∧ Blanks after ∧
      text = before ++ written ++ ')' :: after := by
  fun_induction readList text generalizing values with
  | case1 => cases success
  | case2 => cases success
  | case3 text value rest literal after separator _ ih =>
    obtain ⟨values, found, rfl⟩ := map_eq_ok.mp success
    obtain ⟨next, written, last, spaces, items, blanksLast, rfl⟩ := ih found
    obtain ⟨before, own, gap, front, derived, blanks, _, textEq⟩ := literal_of_read literal
    refine ⟨before, _, last, front, .more derived blanks spaces items, blanksLast, ?_⟩
    rw [textEq, separator]
    simp
  | case4 text value rest literal after separator _ _ =>
    obtain ⟨blanksLast, rfl⟩ := close_eq_ok.mp success
    obtain ⟨before, own, gap, front, derived, blanks, _, textEq⟩ := literal_of_read literal
    refine ⟨before, _, after, front, .last derived blanks, blanksLast, ?_⟩
    rw [textEq, separator]
    simp
  | case5 => cases success

theorem readList_literal {text rest after : List Char} {value : Value} {c : Char}
    (literal : Literal.read (trimStart text) = .ok (value, rest)) (separator : trimStart rest = c :: after) :
    readList text =
      if c = ',' then (readList after).map (value :: ·)
      else if c = ')' then close [value] after
      else .error (.notSeparator c) := by
  rw [readList]
  split
  · rename_i failed
    rw [literal] at failed
    cases failed
  · rename_i read
    rw [literal] at read
    cases read
    split
    · rename_i empty
      rw [separator] at empty
      cases empty
    · rename_i found
      rw [separator] at found
      cases found
      rfl

/-- Blanks and what is no part of a number stand apart from every literal. -/
theorem apart_gap {gap later : List Char} {c : Char} (blanks : Blanks gap) (other : isNumeric c = false)
    (value : Value) : Apart value (gap ++ c :: later) :=
  Literal.apart_of_ends (endsRun_gap blanks (fun _ blank => not_numeric_of_blank blank) other later) value

theorem read_literal {before literal rest : List Char} {value : Value} (front : Blanks before)
    (derived : LiteralText literal value) (apart : Apart value rest) :
    Literal.read (trimStart (before ++ literal ++ rest)) = .ok (value, rest) := by
  obtain ⟨d, later, same, shown, _⟩ := visible_of_literalText derived rest
  rw [List.append_assoc, trimStart_blanks front, same, trimStart_eq_self (endsRun_cons shown later), ← same]
  exact Literal.read_eq_ok.mpr ⟨literal, derived, apart, rfl⟩

/-- A literal in front of a separator is read with the blanks on its two sides. -/
theorem readList_separated {before literal gap later : List Char} {value : Value} {c : Char}
    (front : Blanks before) (derived : LiteralText literal value) (blanks : Blanks gap)
    (visible : isBlank c = false) (apart : Apart value (gap ++ c :: later)) :
    readList (before ++ literal ++ gap ++ c :: later) =
      if c = ',' then (readList later).map (value :: ·)
      else if c = ')' then close [value] later
      else .error (.notSeparator c) := by
  apply readList_literal
  · rw [List.append_assoc (before ++ literal)]
    exact read_literal front derived apart
  · rw [trimStart_blanks blanks]
    exact trimStart_eq_self (endsRun_cons visible later)

private theorem readList_of_listText {written : List Char} {values : List Value}
    (items : ListText written values) {before after : List Char} (front : Blanks before)
    (last : Blanks after) : readList (before ++ written ++ ')' :: after) = .ok values := by
  induction items generalizing before with
  | @last literal value gap derived blanks =>
    rw [← List.append_assoc, readList_separated front derived blanks (by decide) (apart_gap blanks (by decide) _)]
    exact close_eq_ok.mpr ⟨last, rfl⟩
  | @more literal value gap next later values derived blanks spaces rest ih =>
    have shape : before ++ (literal ++ gap ++ ',' :: next ++ later) ++ ')' :: after =
        before ++ literal ++ gap ++ ',' :: (next ++ later ++ ')' :: after) := by simp
    rw [shape, readList_separated front derived blanks (by decide) (apart_gap blanks (by decide) _), if_pos rfl,
      ih spaces]
    rfl

theorem readList_eq_ok {text : List Char} {values : List Value} :
    readList text = .ok values ↔
      ∃ before written after, Blanks before ∧ ListText written values ∧ Blanks after ∧
        text = before ++ written ++ ')' :: after := by
  constructor
  · exact listText_of_readList
  · rintro ⟨before, written, after, front, items, last, rfl⟩
    exact readList_of_listText items front last

theorem visible_of_listText {written : List Char} {values : List Value} (items : ListText written values)
    (rest : List Char) : ∃ c later, written ++ rest = c :: later ∧ isBlank c = false ∧ c ≠ ')' := by
  cases items with
  | last derived _ =>
    rw [List.append_assoc]
    exact visible_of_literalText derived _
  | more derived _ _ _ =>
    simp only [List.append_assoc]
    exact visible_of_literalText derived _

/-- Behind the opening parenthesis stand blanks, a list or none, and the closing one. -/
theorem read_eq_ok {source : List Char} {values : List Value} :
    read source = .ok values ↔
      ∃ between after, Blanks between ∧ Blanks after ∧
        (values = [] ∧ source = between ++ ')' :: after ∨
          ∃ written, ListText written values ∧ source = between ++ written ++ ')' :: after) := by
  obtain ⟨gap, blanks, same⟩ := exists_blanks_trimStart source
  constructor
  · intro success
    unfold read at success
    split at success
    · rename_i rest start
      obtain ⟨last, rfl⟩ := close_eq_ok.mp success
      rw [start] at same
      exact ⟨gap, rest, blanks, last, .inl ⟨rfl, same⟩⟩
    · obtain ⟨before, written, after, front, items, last, start⟩ := readList_eq_ok.mp success
      refine ⟨gap ++ before, after, blanks_append.mpr ⟨blanks, front⟩, last, .inr ⟨written, items, ?_⟩⟩
      rw [same, start]
      simp
  · rintro ⟨between, after, inner, last, ⟨rfl, rfl⟩ | ⟨written, items, rfl⟩⟩
    · have start : trimStart (between ++ ')' :: after) = ')' :: after := by
        rw [trimStart_blanks inner]
        exact trimStart_eq_self (endsRun_cons (by decide) after)
      rw [read, start]
      exact close_eq_ok.mpr ⟨last, rfl⟩
    · obtain ⟨c, later, shape, visible, other⟩ := visible_of_listText items (')' :: after)
      have start : trimStart (between ++ written ++ ')' :: after) = c :: later := by
        rw [List.append_assoc, trimStart_blanks inner, shape]
        exact trimStart_eq_self (endsRun_cons visible later)
      rw [read, start]
      split
      · rename_i closed
        exact absurd (List.cons.inj closed).1 other
      · rw [← shape]
        exact readList_eq_ok.mpr ⟨[], written, after, blanks_nil, items, last, rfl⟩

end Arguments

theorem isStart_iff {c : Char} : Name.isStart c = true ↔ NameStart c := by
  have start : Name.isStart c =
      (decide ('A' ≤ c ∧ c ≤ 'Z') || decide ('a' ≤ c) && decide (c ≤ 'z') || c == '_' || c == '$') := rfl
  simp only [start, NameStart, Bool.or_eq_true, Bool.and_eq_true, decide_eq_true_eq, beq_iff_eq, or_assoc]

theorem isLater_iff {c : Char} : Name.isLater c = true ↔ NameStart c ∨ Digit c := by
  simp only [Name.isLater, Bool.or_eq_true, isStart_iff, Decimal.isDigit_iff]

theorem isName_iff {text : List Char} : Name.isName text = true ↔ NameText text := by
  cases text with
  | nil =>
    constructor
    · intro name
      cases name
    · intro name
      cases name
  | cons c rest =>
    simp only [Name.isName, Bool.and_eq_true, List.all_eq_true, isStart_iff, isLater_iff]
    constructor
    · rintro ⟨start, later⟩
      exact .name start later
    · rintro ⟨start, later⟩
      exact ⟨start, later⟩

theorem isName_of_callText {written : List Char} {call : Call} (derived : CallText written call) :
    Name.isName call.name.toList = true := by
  cases derived with
  | bare named => simpa using isName_iff.mpr named
  | empty named _ _ => simpa using isName_iff.mpr named
  | list named _ _ _ => simpa using isName_iff.mpr named

theorem char_of_nameText {name : List Char} (named : NameText name) : ∀ c ∈ name, NameStart c ∨ Digit c := by
  obtain ⟨start, later⟩ := named
  exact List.forall_mem_cons.mpr ⟨.inl start, later⟩

theorem visible_of_nameText {name : List Char} (named : NameText name) :
    ∀ c ∈ name, (!endsName c) = true := by
  intro c member
  have char := char_of_nameText named c member
  have visible : isBlank c = false := by
    rcases char with start | digit
    · exact not_blank_of_visible (visible_of_nameStart start).1 (visible_of_nameStart start).2
    · exact not_blank_of_visible (visible_of_digit digit).1 (visible_of_digit digit).2
  have other : c ≠ '(' := by
    rintro rfl
    exact absurd (isLater_iff.mpr char) (by decide)
  simp [endsName, visible, other]

theorem endsName_blank {c : Char} (blank : isBlank c = true) : (!endsName c) = false := by
  simp [endsName, blank]

theorem readCall_bare {name gap : List Char} (named : NameText name) (blanks : Blanks gap) :
    readCall (name ++ gap) = .ok ⟨String.ofList name, []⟩ := by
  have inside := visible_of_nameText named
  have ends : EndsRun (!endsName ·) gap := endsRun_blanks blanks fun _ blank => endsName_blank blank
  simp only [readCall, takeWhile_run inside ends, dropWhile_run inside ends, isName_iff.mpr named,
    if_true, trimStart_of_blanks blanks]

theorem readCall_list {name gap source : List Char} {values : List Value} (named : NameText name)
    (blanks : Blanks gap) (read : Arguments.read source = .ok values) :
    readCall (name ++ gap ++ '(' :: source) = .ok ⟨String.ofList name, values⟩ := by
  have inside := visible_of_nameText named
  have ends : EndsRun (!endsName ·) (gap ++ '(' :: source) :=
    endsRun_gap blanks (fun _ blank => endsName_blank blank) (by decide) source
  have start : trimStart (gap ++ '(' :: source) = '(' :: source := by
    rw [trimStart_blanks blanks]
    exact trimStart_eq_self (endsRun_cons (by decide) source)
  rw [List.append_assoc]
  simp only [readCall, takeWhile_run inside ends, dropWhile_run inside ends, isName_iff.mpr named,
    if_true, start, read]

theorem callText_of_readCall {segment : List Char} {call : Call} (success : readCall segment = .ok call) :
    ∃ written after, CallText written call ∧ Blanks after ∧ segment = written ++ after := by
  obtain ⟨gap, blanks, same⟩ := exists_blanks_trimStart (segment.dropWhile (!endsName ·))
  have whole := List.takeWhile_append_dropWhile (p := (!endsName ·)) (l := segment)
  rw [same] at whole
  simp only [readCall] at success
  split at success
  · rename_i name
    have named := isName_iff.mp name
    split at success
    · rename_i rest
      cases success
      rw [rest, List.append_nil] at whole
      exact ⟨_, gap, .bare named, blanks, whole.symm⟩
    · rename_i source rest
      rw [rest] at whole
      split at success
      · rename_i values read
        cases success
        obtain ⟨between, after, inner, last, ⟨rfl, rfl⟩ | ⟨written, items, rfl⟩⟩ := Arguments.read_eq_ok.mp read
        · exact ⟨_, after, .empty named blanks inner, last, whole.symm.trans (by simp)⟩
        · exact ⟨_, after, .list named blanks inner items, last, whole.symm.trans (by simp)⟩
      · cases success
    · cases success
  · cases success

theorem readCall_of_callText {written after : List Char} {call : Call} (derived : CallText written call)
    (last : Blanks after) : readCall (written ++ after) = .ok call := by
  cases derived with
  | bare named => exact readCall_bare named last
  | @empty name before between named gap inner =>
    have read : Arguments.read (between ++ ')' :: after) = .ok [] :=
      Arguments.read_eq_ok.mpr ⟨between, after, inner, last, .inl ⟨rfl, rfl⟩⟩
    simpa using readCall_list named gap read
  | @list name before between items values named gap inner derived =>
    have read : Arguments.read (between ++ items ++ ')' :: after) = .ok values :=
      Arguments.read_eq_ok.mpr ⟨between, after, inner, last, .inr ⟨items, derived, rfl⟩⟩
    simpa using readCall_list named gap read

end TextTemplate.Expression
