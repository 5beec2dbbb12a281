import Mathlib.Data.List.Induction
import TextTemplate.Filter.Builtin
import TextTemplate.Proofs.Expression.Neutral

/-! Writing an expression down and reading it back. Strings are escaped by the built-in
filter `esc` and quoted, integers are written in decimal, and blanks may stand around every
part. Whatever the layout, the reader returns what was written. -/
namespace TextTemplate.Expression

open Decimal
open Grammar
open Result (mapError_eq_ok)
open Text

/-- A text is a value's argument: a string behind an escape of it, or an integer's digits. -/
inductive ArgumentEncoding : Value → List Char → Prop where
  | string (opens : quote = '\x27' ∨ quote = '"') (escaped : Builtin.esc (.str content) [] = .ok value) :
      ArgumentEncoding (.str content) (quote :: value.text.toList ++ [quote])
  | integer (number : Int64) : ArgumentEncoding (.int number) (intDigits number.toInt)

/-- Arguments with commas between them, and blanks on both sides of each. -/
inductive ArgumentsEncoding : List Value → List Char → Prop where
  | last (before : Blanks left) (written : ArgumentEncoding value text) (after : Blanks right) :
      ArgumentsEncoding [value] (left ++ text ++ right)
  | more (before : Blanks left) (written : ArgumentEncoding value text) (after : Blanks right)
      (rest : ArgumentsEncoding values later) :
      ArgumentsEncoding (value :: values) (left ++ text ++ right ++ ',' :: later)

/-- A call without arguments may do without the parentheses. -/
inductive CallEncoding : Call → List Char → Prop where
  | bare (name : String) : CallEncoding ⟨name, []⟩ name.toList
  | empty (name : String) (gap : Blanks before) (inner : Blanks between) :
      CallEncoding ⟨name, []⟩ (name.toList ++ before ++ '(' :: between ++ [')'])
  | list (name : String) (gap : Blanks before) (items : ArgumentsEncoding values text) :
      CallEncoding ⟨name, values⟩ (name.toList ++ before ++ '(' :: text ++ [')'])

/-- The key, and each call behind a pipe, with blanks around all of them. -/
inductive Encoding (key : String) : List Call → List Char → Prop where
  | key (before : Blanks left) (after : Blanks right) : Encoding key [] (left ++ key.toList ++ right)
  | call {calls : List Call} {segment : List Char} (content : Encoding key calls text) (before : Blanks left)
      (written : CallEncoding call segment) (after : Blanks right) :
      Encoding key (calls ++ [call]) (text ++ '|' :: left ++ segment ++ right)

/-- What can be written: a key with no blanks at its ends and no pipe or quote, names that
the registry would take, and arguments that are strings or integers. -/
structure Encodable (key : String) (calls : List Call) : Prop where
  starts : EndsRun isBlank key.toList
  finishes : EndsRun isBlank key.toList.reverse
  plain : ∀ c ∈ key.toList, Plain c
  named : ∀ call ∈ calls, Name.isName call.name.toList = true
  exact : ∀ call ∈ calls, ∀ argument ∈ call.arguments,
    (∃ content, argument = .str content) ∨ ∃ number, argument = .int number

variable {key : String} {calls : List Call} {call : Call}

theorem body_escape (opens : quote = '\x27' ∨ quote = '"') (content : List Char) :
    Body quote (Builtin.escape content) content := by
  induction content with
  | nil => exact .done
  | cons c content ih =>
    rw [Builtin.escape, List.flatMap_cons, Builtin.escapeChar]
    split
    · rename_i special
      exact .escaped special ih
    · rename_i ordinary
      simp only [not_or] at ordinary
      have inside : c ≠ quote := by
        rintro rfl
        rcases opens with rfl | rfl
        · exact ordinary.2.1 rfl
        · exact ordinary.2.2 rfl
      exact .plain ordinary.1 inside ih

theorem digits_toDigits (number : Nat) : Digits (digits number) :=
  ⟨Nat.toDigits_ne_nil, fun _ member =>
    isDigit_iff.mp (Nat.isDigit_of_mem_toDigits (by decide) (by decide) member)⟩

theorem digitsValue_digits (number : Nat) : digitsValue (digits number) = number :=
  Nat.ofDigitChars_ten_toDigits

theorem wholeText_intDigits (number : Int) : WholeText (intDigits number) number := by
  have run := digits_toDigits number.natAbs
  unfold intDigits
  by_cases below : number < 0
  · have value : applySign true (digitsValue (digits number.natAbs)) = number := by
      rw [digitsValue_digits, applySign, if_pos rfl]
      omega
    rw [if_pos below]
    simpa [value] using WholeText.whole .minus run
  · have value : applySign false (digitsValue (digits number.natAbs)) = number := by
      rw [digitsValue_digits]
      simp only [applySign, Bool.false_eq_true, if_false]
      omega
    rw [if_neg below]
    simpa [value] using WholeText.whole .absent run

theorem ArgumentEncoding.literalText (encoding : ArgumentEncoding value text) : LiteralText text value := by
  cases encoding with
  | @string quote content value opens escaped =>
    cases escaped
    have body := body_escape opens content.toList
    simpa [Value.text] using LiteralText.string opens body
  | integer number => exact .integer number (wholeText_intDigits _)

theorem ArgumentsEncoding.listText (encoding : ArgumentsEncoding values text) :
    ∃ before written, Blanks before ∧ ListText written values ∧ text = before ++ written := by
  induction encoding with
  | @last left _ _ _ before written after =>
    exact ⟨left, _, before, .last written.literalText after, List.append_assoc _ _ _⟩
  | @more left _ _ _ _ _ before written after _ ih =>
    obtain ⟨next, later, blanks, items, rfl⟩ := ih
    exact ⟨left, _, before, .more written.literalText after blanks items, by simp⟩

theorem CallEncoding.callText (encoding : CallEncoding call text)
    (named : Name.isName call.name.toList = true) : CallText text call := by
  have name := isName_iff.mp named
  cases encoding with
  | bare => simpa using CallText.bare name
  | empty _ gap inner => simpa using CallText.empty name gap inner
  | list _ gap items =>
    obtain ⟨between, written, inner, derived, rfl⟩ := items.listText
    simpa using CallText.list name gap inner derived

theorem endsRun_callText (derived : CallText text call) :
    EndsRun isBlank text ∧ EndsRun isBlank text.reverse := by
  have starts {name : List Char} (named : NameText name) (rest : List Char) :
      EndsRun isBlank (name ++ rest) := by
    obtain ⟨start, _⟩ := named
    have visible := visible_of_nameStart start
    exact endsRun_cons (not_blank_of_visible visible.1 visible.2) _
  cases derived with
  | bare named =>
    have visible : ∀ c ∈ text, isBlank c = false := by
      intro c member
      have inside := visible_of_nameText named c member
      simp only [endsName, Bool.not_eq_true', Bool.or_eq_false_iff] at inside
      exact inside.2
    refine ⟨by simpa using starts named [], ?_⟩
    intro c last
    exact visible c (List.mem_reverse.mp (List.mem_of_head? last))
  | @empty name before between named gap inner =>
    refine ⟨by simpa using starts named (before ++ '(' :: between ++ [')']), ?_⟩
    simpa using endsRun_cons (by decide) _
  | @list name before between written values named gap inner items =>
    refine ⟨by simpa using starts named (before ++ '(' :: between ++ written ++ [')']), ?_⟩
    simpa using endsRun_cons (by decide) _

/-- What one more call behind the last pipe keeps of an encoding read so far. -/
structure ReadBack (text : List Char) (expression : Expression) : Prop where
  reads : read text = .ok expression
  leaves : Quoting.run .outside text = .outside

theorem readBack_key (encodable : Encodable key calls) (before : Blanks left) (after : Blanks right) :
    ReadBack (left ++ key.toList ++ right) ⟨key, []⟩ := by
  have neutral : Neutral (left ++ key.toList ++ right) :=
    ((neutral_blanks before).append (neutral_of_plain encodable.plain)).append (neutral_blanks after)
  have trimmed := trim_wrapped before after encodable.starts encodable.finishes
  refine ⟨?_, neutral.leaves⟩
  rw [read_eq_ok, Pipeline.split, Pipeline.splitFrom_uncut neutral.uncut]
  exact ⟨[], rfl, by rw [trimmed, String.ofList_toList]⟩

theorem ReadBack.extend {segment : List Char} (content : ReadBack text ⟨key, calls⟩) (before : Blanks left)
    (derived : CallText segment call) (after : Blanks right) :
    ReadBack (text ++ '|' :: left ++ segment ++ right) ⟨key, calls ++ [call]⟩ := by
  have ends := endsRun_callText derived
  have neutral : Neutral (left ++ segment ++ right) :=
    ((neutral_blanks before).append (neutral_callText derived)).append (neutral_blanks after)
  have trimmed := trim_wrapped before after ends.1 ends.2
  have shape : text ++ '|' :: left ++ segment ++ right = text ++ '|' :: (left ++ segment ++ right) := by simp
  rw [shape]
  constructor
  · exact read_append content.reads content.leaves neutral.uncut (trimmed.symm ▸ derived)
  · rw [Quoting.run_append, content.leaves]
    exact neutral.leaves

theorem Encoding.readBack (encodable : Encodable key calls) (encoding : Encoding key calls text) :
    ReadBack text ⟨key, calls⟩ := by
  induction encoding with
  | key before after => exact readBack_key encodable before after
  | @call text left call right calls segment _ before written after ih =>
    have earlier : Encodable key calls :=
      { encodable with
        named := fun call member => encodable.named call (List.mem_append_left _ member)
        exact := fun call member => encodable.exact call (List.mem_append_left _ member) }
    have own := encodable.named call (List.mem_append_right _ List.mem_cons_self)
    exact (ih earlier).extend before (written.callText own) after

theorem exists_argumentEncoding {value : Value}
    (exact : (∃ content, value = .str content) ∨ ∃ number, value = .int number) :
    ∃ text, ArgumentEncoding value text := by
  rcases exact with ⟨content, rfl⟩ | ⟨number, rfl⟩
  · exact ⟨_, .string (.inl rfl) rfl⟩
  · exact ⟨_, .integer number⟩

theorem exists_argumentsEncoding {values : List Value} (nonempty : values ≠ [])
    (exact : ∀ argument ∈ values, (∃ content, argument = .str content) ∨ ∃ number, argument = .int number) :
    ∃ text, ArgumentsEncoding values text := by
  induction values with
  | nil => exact absurd rfl nonempty
  | cons value values ih =>
    obtain ⟨text, written⟩ := exists_argumentEncoding (exact value List.mem_cons_self)
    by_cases more : values = []
    · subst more
      exact ⟨_, .last blanks_nil written blanks_nil⟩
    · obtain ⟨later, rest⟩ := ih more fun argument member => exact argument (List.mem_cons_of_mem value member)
      exact ⟨_, .more blanks_nil written blanks_nil rest⟩

theorem exists_encoding (encodable : Encodable key calls) : ∃ text, Encoding key calls text := by
  have written : ∀ call ∈ calls, ∃ text, CallEncoding call text := by
    intro call member
    by_cases bare : call.arguments = []
    · obtain ⟨name, _⟩ := call
      cases bare
      exact ⟨_, .bare name⟩
    · obtain ⟨text, items⟩ := exists_argumentsEncoding bare (encodable.exact call member)
      exact ⟨_, .list call.name blanks_nil items⟩
  clear encodable
  induction calls using List.reverseRecOn with
  | nil => exact ⟨_, .key blanks_nil blanks_nil⟩
  | append_singleton calls call ih =>
    obtain ⟨text, content⟩ := ih fun call member => written call (List.mem_append_left _ member)
    obtain ⟨segment, last⟩ := written call (List.mem_append_right _ List.mem_cons_self)
    exact ⟨_, .call content blanks_nil last blanks_nil⟩

/-- Whatever can be written has an encoding, and at any position each of its encodings is
read as the key and the calls that were written. -/
theorem read_encoding (encodable : Encodable key calls) (position : Nat) :
    (∃ text, Encoding key calls text) ∧
      ∀ text, Encoding key calls text →
        (read text).mapError (TemplateError.ofDefect position) = .ok ⟨key, calls⟩ :=
  ⟨exists_encoding encodable, fun _ encoding => mapError_eq_ok.mpr (encoding.readBack encodable).reads⟩

theorem read_encoding_pipe_behind_escapes :
    (read " user name |def( 'it\\'s |\\\\' ,-42)| upper ".toList).mapError (TemplateError.ofDefect 7) =
      .ok ⟨"user name", [⟨"def", [.str "it's |\\", .int (-42)]⟩, ⟨"upper", []⟩]⟩ := by
  have encodable : Encodable "user name" [⟨"def", [.str "it's |\\", .int (-42)]⟩, ⟨"upper", []⟩] := by
    refine ⟨?_, ?_, by simp [Plain], ?_, by simp⟩
    · exact endsRun_cons (by decide) _
    · exact endsRun_cons (by decide) _
    · intro call member
      rcases List.mem_cons.mp member with rfl | member
      · rfl
      · obtain rfl := List.mem_singleton.mp member
        rfl
  have space : Blanks [' '] := by simp [Blanks, isBlank, blankRanges]
  have escaped : Builtin.esc (.str "it's |\\") [] = .ok (.str "it\\'s |\\\\") := rfl
  have items : ArgumentsEncoding [.str "it's |\\", .int (-42)] " 'it\\'s |\\\\' ,-42".toList :=
    .more space (.string (.inl rfl) escaped) space (.last blanks_nil (.integer (-42)) blanks_nil)
  have named : Encoding "user name" [] " user name ".toList := .key space space
  have called := named.call blanks_nil (.list "def" blanks_nil items) blanks_nil
  exact (read_encoding encodable 7).2 _ (called.call space (.bare "upper") space)

end TextTemplate.Expression
