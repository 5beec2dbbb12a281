import TextTemplate.Proofs.Value.Clamping

/-! Numbers among the arguments of a call, as they stand and between quotes. The reader of arguments tells
integers from floats by the characters that it meets, and the integer of a text tells them by what cannot be
read. The two agree on every numeral that the reader takes, so a substring does not depend on the quotes. -/
namespace TextTemplate

open Expression.Grammar
open Text

namespace Expression

open Literal (isNumberChar)

/-- A token that the argument list takes for a number wherever it ends. -/
def Accepted (token : List Char) (number : Value) : Prop :=
  ∃ rest, Literal.readNumber (token ++ rest) = .ok (number, rest)

/-- A token as it stands, or between two quotes. -/
inductive Spelling (token : List Char) : List Char → Prop where
  | bare : Spelling token token
  | quoted (opens : quote = '\x27' ∨ quote = '"') : Spelling token (quote :: token ++ [quote])

/-- The tokens of an argument list with commas between them, each in a spelling of its own and among blanks. -/
inductive Spelled : List (List Char) → List Char → Prop where
  | last (before : Blanks left) (spelling : Spelling token text) (after : Blanks right) :
      Spelled [token] (left ++ text ++ right)
  | more (before : Blanks left) (spelling : Spelling token text) (after : Blanks right)
      (rest : Spelled tokens later) : Spelled (token :: tokens) (left ++ text ++ right ++ ',' :: later)

variable {token text : List Char} {tokens : List (List Char)} {number : Value} {c : Char}

theorem Accepted.chars (accepted : Accepted token number) : ∀ c ∈ token, isNumberChar c = true := by
  obtain ⟨rest, read⟩ := accepted
  have whole := Literal.numberText_append (token ++ rest)
  have chars := Literal.numberText_chars (token ++ rest)
  rw [(Literal.readNumber_eq_ok.mp read).2] at whole
  rwa [List.append_cancel_right whole] at chars

theorem Accepted.literal (accepted : Accepted token number) : LiteralText token number := by
  obtain ⟨rest, read⟩ := accepted
  have whole := Literal.numberText_append (token ++ rest)
  obtain ⟨derived, taken⟩ := Literal.readNumber_eq_ok.mp read
  rw [taken] at whole
  rwa [List.append_cancel_right whole] at derived

theorem body_of_numberChars (opens : quote = '\x27' ∨ quote = '"') (chars : ∀ c ∈ token, isNumberChar c = true) :
    Body quote token token := by
  induction token with
  | nil => exact .done
  | cons c token ih =>
    obtain ⟨own, rest⟩ := List.forall_mem_cons.mp chars
    obtain ⟨_, backslash, single, double⟩ := plain_of_numberChar own
    refine .plain backslash ?_ (ih rest)
    rcases opens with rfl | rfl
    · exact single
    · exact double

theorem trim_of_numberChars (chars : ∀ c ∈ token, isNumberChar c = true) : trim token = token := by
  obtain ⟨starts, finishes⟩ := endsRun_of_numberChars chars
  have trimmed := trim_wrapped blanks_nil blanks_nil starts finishes
  rwa [List.nil_append, List.append_nil] at trimmed

/-- The integer of a number is that of the text which it is written with. -/
theorem Accepted.integer_eq (accepted : Accepted token number) :
    number.integer = (Value.str (String.ofList token)).integer := by
  have chars := accepted.chars
  have plain := fun c member => Literal.toLower_ne_of_isNumberChar (chars c member)
  have derived := accepted.literal
  simp only [Value.integer, String.toList_ofList, Value.readInteger, trim_of_numberChars chars]
  cases derived with
  | string opens _ =>
    obtain ⟨_, _, single, double⟩ := plain_of_numberChar (chars _ List.mem_cons_self)
    rcases opens with same | same
    · exact absurd same single
    · exact absurd same double
  | integer whole derived => simp only [Decimal.readInt64?_eq_some.mpr derived]
  | float numeral marked =>
    have whole : Decimal.readInt64? token = none := by
      apply Option.eq_none_iff_forall_ne_some.mpr
      intro other read
      obtain ⟨c, member, mark⟩ := marked
      have unmarked := Literal.chars_of_whole (Decimal.readInt64?_eq_some.mp read) c member
      rcases mark with rfl | rfl | rfl
      all_goals exact absurd unmarked (by decide)
    simp only [whole, (Decimal.binary64_read?_eq_some plain).mpr ⟨_, numeral, rfl⟩]

theorem Spelling.literal (spelling : Spelling token text) (accepted : Accepted token number) :
    ∃ value, LiteralText text value ∧ value.integer = number.integer := by
  cases spelling with
  | bare => exact ⟨number, accepted.literal, rfl⟩
  | quoted opens =>
    exact ⟨_, .string opens (body_of_numberChars opens accepted.chars), accepted.integer_eq.symm⟩

theorem Spelled.listText {numbers : List Value} (spelled : Spelled tokens text)
    (accepted : List.Forall₂ Accepted tokens numbers) :
    ∃ before written arguments, Blanks before ∧ ListText written arguments ∧ text = before ++ written ∧
      arguments.map Value.integer = numbers.map Value.integer := by
  induction spelled generalizing numbers with
  | @last left _ _ _ before spelling after =>
    cases accepted with
    | cons own none =>
      cases none
      obtain ⟨value, literal, same⟩ := spelling.literal own
      exact ⟨left, _, [value], before, .last literal after, List.append_assoc _ _ _, by simp [same]⟩
  | @more left _ _ _ _ _ before spelling after _ ih =>
    cases accepted with
    | cons own rest =>
      obtain ⟨value, literal, same⟩ := spelling.literal own
      obtain ⟨next, later, arguments, blanks, items, rfl, alike⟩ := ih rest
      exact ⟨left, _, value :: arguments, before, .more literal after blanks items, by simp, by simp [same, alike]⟩

theorem Spelled.readCall {numbers : List Value} (spelled : Spelled tokens text)
    (accepted : List.Forall₂ Accepted tokens numbers) :
    ∃ arguments, Expression.readCall ("substr(".toList ++ text ++ [')']) = .ok ⟨"substr", arguments⟩ ∧
      arguments.map Value.integer = numbers.map Value.integer := by
  obtain ⟨before, written, arguments, blanks, items, rfl, same⟩ := spelled.listText accepted
  have named : NameText "substr".toList := isName_iff.mp rfl
  have derived := CallText.list named blanks_nil blanks items
  have read := readCall_of_callText derived blanks_nil
  refine ⟨arguments, ?_, same⟩
  simpa using read

end Expression

namespace Builtin

theorem substr_congr {arguments arguments' : List Value}
    (same : arguments.map Value.integer = arguments'.map Value.integer) (value : Value) :
    substr value arguments = substr value arguments' := by
  cases arguments with
  | nil =>
    obtain rfl : arguments' = [] := by simpa using same.symm
    rfl
  | cons start more =>
    cases arguments' with
    | nil => cases same
    | cons start' more' =>
      obtain ⟨starts, rest⟩ := List.cons.inj same
      have counts : more[0]?.map Value.integer = more'[0]?.map Value.integer := by
        rw [← List.getElem?_map, ← List.getElem?_map, rest]
      simp only [substr, argument, List.getElem?_cons_zero, List.getElem?_cons_succ, counts]
      change Except.ok _ = Except.ok _
      rw [starts]

open Expression in
/-- A number that the argument list takes has the integer of its text. Substrings are the same whichever of
their arguments stand between quotes. -/
theorem substr_of_spelled :
    (∀ token number, Accepted token number → number.integer = (Value.str (String.ofList token)).integer) ∧
    ∀ tokens, (∀ token ∈ tokens, ∃ number, Accepted token number) →
      ∀ text other, Spelled tokens text → Spelled tokens other →
      ∃ arguments arguments', readCall ("substr(".toList ++ text ++ [')']) = .ok ⟨"substr", arguments⟩ ∧
        readCall ("substr(".toList ++ other ++ [')']) = .ok ⟨"substr", arguments'⟩ ∧
        ∀ value, substr value arguments = substr value arguments' := by
  refine ⟨fun _ _ accepted => accepted.integer_eq, ?_⟩
  intro tokens accepted text other spelled spelled'
  obtain ⟨numbers, all⟩ := exists_forall₂_iff.mpr accepted
  obtain ⟨arguments, read, same⟩ := spelled.readCall all
  obtain ⟨arguments', read', same'⟩ := spelled'.readCall all
  exact ⟨arguments, arguments', read, read', substr_congr (same.trans same'.symm)⟩

open Expression in
/-- A start with a point at its end, and a count beyond every finite float. -/
theorem substr_of_spelled_exponent :
    Int64.maxValue = (Value.str "1e400").integer ∧
    ∃ arguments arguments', readCall "substr(-4., 1e400)".toList = .ok ⟨"substr", arguments⟩ ∧
      readCall "substr( '-4.' ,\"1e400\")".toList = .ok ⟨"substr", arguments'⟩ ∧
      substr (.str "headline") arguments = substr (.str "headline") arguments' := by
  have start : Accepted "-4.".toList
      (.float (.finite true ⟨4503599627370496, -50, by decide, by decide, by decide, by decide⟩)) := ⟨[], rfl⟩
  have count : Accepted "1e400".toList (.float (.infinite false)) := ⟨[], rfl⟩
  have accepted : ∀ token ∈ ["-4.".toList, "1e400".toList], ∃ number, Accepted token number := by
    intro token member
    rcases List.mem_cons.mp member with rfl | member
    · exact ⟨_, start⟩
    · obtain rfl := List.mem_singleton.mp member
      exact ⟨_, count⟩
  have space : Blanks [' '] := by simp [Blanks, isBlank, blankRanges]
  have bare : Spelled ["-4.".toList, "1e400".toList] "-4., 1e400".toList :=
    .more blanks_nil .bare blanks_nil (.last space .bare blanks_nil)
  have quoted : Spelled ["-4.".toList, "1e400".toList] " '-4.' ,\"1e400\"".toList :=
    .more space (.quoted (.inl rfl)) space (.last blanks_nil (.quoted (.inr rfl)) blanks_nil)
  obtain ⟨integers, calls⟩ := substr_of_spelled
  obtain ⟨arguments, arguments', first, second, same⟩ := calls _ accepted _ _ bare quoted
  exact ⟨integers _ _ count, arguments, arguments', first, second, same _⟩

end Builtin

end TextTemplate
