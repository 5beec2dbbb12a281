import TextTemplate.Filter.Replacement
import TextTemplate.Proofs.Expression.Numeral

/-! Replacement texts as a grammar, written down without the reader. Every text is a row of
tokens in one way only, and that is the row that the reader finds. -/
namespace TextTemplate.Replacement

open Decimal (isDigit_iff ne_of_digit)
open Expression.Grammar (Digit)

def Named (groups index : Nat) : Prop := 1 ≤ index ∧ index ≤ groups

/-- Two digits at the head of a text whose number names a group. -/
inductive Paired (groups : Nat) : List Char → Nat → List Char → Prop where
  | digits (first : Digit c) (second : Digit d) (named : Named groups (digitValue c * 10 + digitValue d)) :
      Paired groups (c :: d :: rest) (digitValue c * 10 + digitValue d) rest

/-- One digit at the head of a text that names a group. -/
inductive Single (groups : Nat) : List Char → Nat → List Char → Prop where
  | digit (first : Digit c) (named : Named groups (digitValue c)) : Single groups (c :: rest) (digitValue c) rest

/-- What a dollar sign begins with the text behind it, and what that leaves of the text. -/
inductive Begins (groups : Nat) : List Char → Token → List Char → Prop where
  | dollar : Begins groups ('$' :: rest) (.char '$') rest
  | whole : Begins groups ('&' :: rest) .whole rest
  | before : Begins groups ('\x60' :: rest) .before rest
  | after : Begins groups ('\x27' :: rest) .after rest
  | pair (two : Paired groups text index rest) : Begins groups text (.group index) rest
  | single (alone : ¬∃ index rest, Paired groups text index rest) (one : Single groups text index rest) :
      Begins groups text (.group index) rest
  | bare (mark : ∀ c ∈ text.head?, c ∉ ['$', '&', '\x60', '\x27'])
      (two : ¬∃ index rest, Paired groups text index rest) (one : ¬∃ index rest, Single groups text index rest) :
      Begins groups text (.char '$') text

/-- A replacement text as a row of tokens, from left to right. -/
inductive Tokenised (groups : Nat) : List Char → List Token → Prop where
  | done : Tokenised groups [] []
  | plain (ordinary : c ≠ '$') (rest : Tokenised groups text row) : Tokenised groups (c :: text) (.char c :: row)
  | token (begins : Begins groups text token later) (rest : Tokenised groups later row) :
      Tokenised groups ('$' :: text) (token :: row)

variable {groups index : Nat} {text later : List Char} {token : Token} {row : List Token} {c : Char}

theorem names_iff : names groups index = true ↔ Named groups index := by
  simp [names, Named]

theorem dollar_digit (digit : Digit c) :
    dollar groups (c :: text) =
      let single := if names groups (digitValue c) then (.group (digitValue c), text) else (.char '$', c :: text)
      match text with
      | [] => single
      | d :: rest =>
        if d.isDigit && names groups (digitValue c * 10 + digitValue d) then
          (.group (digitValue c * 10 + digitValue d), rest)
        else single := by
  rw [Replacement.dollar, if_neg (ne_of_digit digit rfl), if_neg (ne_of_digit digit rfl),
    if_neg (ne_of_digit digit rfl), if_neg (ne_of_digit digit rfl)]
  exact if_pos (isDigit_iff.mpr digit)

theorem dollar_of_begins (begins : Begins groups text token later) : dollar groups text = (token, later) := by
  cases begins with
  | dollar => rfl
  | whole => rfl
  | before => rfl
  | after => rfl
  | pair two =>
    cases two with
    | digits first second named =>
      rw [dollar_digit first]
      exact if_pos (Bool.and_eq_true_iff.mpr ⟨isDigit_iff.mpr second, names_iff.mpr named⟩)
  | single alone one =>
    cases one with
    | digit first named =>
      rw [dollar_digit first]
      simp only [names_iff.mpr named, if_true]
      cases later with
      | nil => rfl
      | cons d rest =>
        refine if_neg fun both => alone ?_
        obtain ⟨second, pair⟩ := Bool.and_eq_true_iff.mp both
        exact ⟨_, _, .digits first (isDigit_iff.mp second) (names_iff.mp pair)⟩
  | bare mark two one =>
    cases text with
    | nil => rfl
    | cons c rest =>
      have other := mark c rfl
      simp only [List.mem_cons, List.not_mem_nil, or_false, not_or] at other
      by_cases digit : Digit c
      · rw [dollar_digit digit]
        have unnamed : names groups (digitValue c) = false :=
          Bool.eq_false_iff.mpr fun named => one ⟨_, _, .digit digit (names_iff.mp named)⟩
        simp only [unnamed]
        cases rest with
        | nil => rfl
        | cons d rest =>
          refine if_neg fun both => two ?_
          obtain ⟨second, pair⟩ := Bool.and_eq_true_iff.mp both
          exact ⟨_, _, .digits digit (isDigit_iff.mp second) (names_iff.mp pair)⟩
      · rw [Replacement.dollar, if_neg other.1, if_neg other.2.1, if_neg other.2.2.1, if_neg other.2.2.2,
          if_neg (mt isDigit_iff.mp digit)]

theorem exists_begins (groups : Nat) (text : List Char) : ∃ token later, Begins groups text token later := by
  by_cases two : ∃ index rest, Paired groups text index rest
  · obtain ⟨index, rest, two⟩ := two
    exact ⟨_, _, .pair two⟩
  · by_cases one : ∃ index rest, Single groups text index rest
    · obtain ⟨index, rest, one⟩ := one
      exact ⟨_, _, .single two one⟩
    · by_cases mark : ∀ c ∈ text.head?, c ∉ ['$', '&', '\x60', '\x27']
      · exact ⟨_, _, .bare mark two one⟩
      · simp only [Classical.not_forall, Classical.not_not] at mark
        obtain ⟨c, first, marked⟩ := mark
        obtain ⟨rest, rfl⟩ := List.head?_eq_some_iff.mp first
        simp only [List.mem_cons, List.not_mem_nil, or_false] at marked
        rcases marked with rfl | rfl | rfl | rfl
        · exact ⟨_, _, .dollar⟩
        · exact ⟨_, _, .whole⟩
        · exact ⟨_, _, .before⟩
        · exact ⟨_, _, .after⟩

theorem begins_iff : Begins groups text token later ↔ dollar groups text = (token, later) := by
  refine ⟨dollar_of_begins, fun same => ?_⟩
  obtain ⟨own, left, begins⟩ := exists_begins groups text
  cases (dollar_of_begins begins).symm.trans same
  exact begins

/-- A text is a row of tokens in one way only, which the reader finds. -/
theorem tokenised_iff : Tokenised groups text row ↔ row = tokens groups text := by
  constructor
  · intro tokenised
    induction tokenised with
    | done => rw [tokens]
    | plain ordinary _ ih => rw [tokens, if_neg ordinary, ih]
    | token begins _ ih => rw [tokens, if_pos rfl, dollar_of_begins begins, ih]
  · rintro rfl
    fun_induction tokens groups text with
    | case1 => exact .done
    | case2 rest _ ih => exact .token (begins_iff.mpr rfl) ih
    | case3 c rest ordinary ih => exact .plain ordinary ih

end TextTemplate.Replacement
