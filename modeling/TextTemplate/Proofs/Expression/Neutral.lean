import TextTemplate.Proofs.Expression.Acceptance

/-! What the quoting automaton does on the texts of the grammar. A call leaves it where it
found it and shows it no pipe outside of literals, so a call can be put behind an expression
without a change to the cut before it. -/
namespace TextTemplate.Expression

open Grammar
open Text
open Pipeline

/-- The automaton goes through a text from one state to another and meets no pipe outside. -/
structure Passes (state : Quoting) (text : List Char) (next : Quoting) : Prop where
  uncut : Uncut state text
  leaves : state.run text = next

theorem passes_nil (state : Quoting) : Passes state [] state := by
  refine ⟨?_, rfl⟩
  intro before after same
  simp at same

theorem Passes.cons (apart : state.cuts c = false) (rest : Passes (state.step c) text next) :
    Passes state (c :: text) next := by
  refine ⟨?_, rest.leaves⟩
  intro before after same
  cases before with
  | nil =>
    obtain ⟨rfl, rfl⟩ := List.cons.inj same
    rintro rfl
    cases apart
  | cons d before =>
    obtain ⟨rfl, behind⟩ := List.cons.inj same
    exact rest.uncut before after behind

theorem Passes.tail (passes : Passes state (c :: text) next) : Passes (state.step c) text next :=
  ⟨passes.uncut.tail, passes.leaves⟩

theorem Passes.append (first : Passes state text middle) (second : Passes middle rest next) :
    Passes state (text ++ rest) next := by
  induction text generalizing state with
  | nil =>
    obtain rfl : state = middle := first.leaves
    exact second
  | cons c text ih => exact .cons first.uncut.head (ih first.tail)

/-- A text that is all outside of literals or whole literals, with no pipe outside of them. -/
abbrev Neutral (text : List Char) : Prop := Passes .outside text .outside

/-- A character that matters to the automaton nowhere. -/
def Plain (c : Char) : Prop := c ∉ ['\x27', '"', '|']

instance : DecidablePred Plain := fun c => inferInstanceAs (Decidable (c ∉ ['\x27', '"', '|']))

theorem neutral_cons (plain : Plain c) (rest : Neutral text) : Neutral (c :: text) := by
  simp only [Plain, List.mem_cons, List.not_mem_nil, or_false, not_or] at plain
  have unquoted : isQuote c = false := by simp [isQuote, plain]
  refine .cons (by simp [Quoting.cuts, plain]) ?_
  rw [Quoting.step, unquoted]
  exact rest

theorem neutral_of_plain (plain : ∀ c ∈ text, Plain c) : Neutral text := by
  induction text with
  | nil => exact passes_nil _
  | cons c text ih =>
    exact neutral_cons (plain c List.mem_cons_self) (ih fun d member => plain d (List.mem_cons_of_mem c member))

theorem plain_of_later (later : NameStart c ∨ Digit c) : Plain c := by
  have name := isLater_iff.mpr later
  intro member
  simp only [List.mem_cons, List.not_mem_nil, or_false] at member
  rcases member with rfl | rfl | rfl <;> exact absurd name (by decide)

theorem plain_of_blank (blank : isBlank c = true) : Plain c := by
  intro member
  simp only [List.mem_cons, List.not_mem_nil, or_false] at member
  rcases member with rfl | rfl | rfl <;> exact absurd blank (by decide)

theorem neutral_blanks (blanks : Blanks text) : Neutral text :=
  neutral_of_plain fun c member => plain_of_blank (blanks c member)

theorem neutral_nameText (named : NameText name) : Neutral name :=
  neutral_of_plain fun c member => plain_of_later (char_of_nameText named c member)

theorem neutral_digits (digits : ∀ c ∈ text, Digit c) : Neutral text :=
  neutral_of_plain fun c member => plain_of_later (.inr (digits c member))

theorem neutral_sign (signed : Sign sign negative) : Neutral sign := by
  cases signed with
  | absent => exact passes_nil _
  | plus => exact neutral_cons (by decide) (passes_nil _)
  | minus => exact neutral_cons (by decide) (passes_nil _)

theorem neutral_wholeText (whole : WholeText text number) : Neutral text := by
  obtain ⟨signed, run⟩ := whole
  exact (neutral_sign signed).append (neutral_digits run.2)

theorem neutral_mantissa (mantissa : Mantissa text digits places) : Neutral text := by
  cases mantissa with
  | whole before => exact neutral_digits before.2
  | pointed before after =>
    exact (neutral_digits before.2).append (neutral_cons (by decide) (neutral_digits after))
  | fraction after => exact neutral_cons (by decide) (neutral_digits after.2)

theorem neutral_exponent (exponent : Exponent text scale) : Neutral text := by
  cases exponent with
  | absent => exact passes_nil _
  | power mark scale =>
    rcases mark with rfl | rfl
    · exact neutral_cons (by decide) (neutral_wholeText scale)
    · exact neutral_cons (by decide) (neutral_wholeText scale)

/-- The pairs of a body keep the automaton inside, whatever they stand for. -/
theorem passes_body (body : Body quote written denoted) :
    Passes (.inside quote) written (.inside quote) := by
  induction body with
  | done => exact passes_nil _
  | @plain c _ _ different inside _ ih =>
    refine .cons rfl ?_
    rw [Quoting.step, if_neg different, if_neg inside]
    exact ih
  | escaped _ _ ih => exact .cons rfl (.cons rfl ih)
  | line _ ih => exact .cons rfl (.cons rfl ih)
  | tab _ ih => exact .cons rfl (.cons rfl ih)
  | kept _ _ ih => exact .cons rfl (.cons rfl ih)

theorem neutral_literalText (literal : LiteralText written value) : Neutral written := by
  cases literal with
  | @string quote _ _ opens body =>
    have closes : Passes (.inside quote) [quote] .outside := by
      refine .cons rfl ?_
      rw [Quoting.step, if_neg (by rcases opens with rfl | rfl <;> decide), if_pos rfl]
      exact passes_nil _
    refine .cons (by rcases opens with rfl | rfl <;> rfl) ?_
    rw [Quoting.step, Literal.isQuote_iff.mpr opens]
    exact (passes_body body).append closes
  | integer _ whole => exact neutral_wholeText whole
  | float numeral _ =>
    obtain ⟨signed, mantissa, power⟩ := numeral
    exact ((neutral_sign signed).append (neutral_mantissa mantissa)).append (neutral_exponent power)

theorem neutral_listText (items : ListText written values) : Neutral written := by
  induction items with
  | last literal gap => exact (neutral_literalText literal).append (neutral_blanks gap)
  | more literal gap next _ ih =>
    have comma := neutral_cons (c := ',') (by decide) ((neutral_blanks next).append ih)
    simpa using ((neutral_literalText literal).append (neutral_blanks gap)).append comma

theorem neutral_callText (derived : CallText written call) : Neutral written := by
  have close : Neutral [')'] := neutral_cons (by decide) (passes_nil _)
  cases derived with
  | bare named => exact neutral_nameText named
  | empty named gap inner =>
    have parens := neutral_cons (c := '(') (by decide) ((neutral_blanks inner).append close)
    simpa using ((neutral_nameText named).append (neutral_blanks gap)).append parens
  | list named gap inner items =>
    have parens := neutral_cons (c := '(') (by decide)
      ((neutral_blanks inner).append ((neutral_listText items).append close))
    simpa using ((neutral_nameText named).append (neutral_blanks gap)).append parens

/-- An expression that ends outside of literals takes one more call behind it. -/
theorem read_append {segment : List Char} (success : read content = .ok expression)
    (leaves : Quoting.run .outside content = .outside) (uncut : Uncut .outside segment)
    (derived : CallText (trim segment) call) :
    read (content ++ '|' :: segment) = .ok ⟨expression.key, expression.calls ++ [call]⟩ := by
  obtain ⟨calls, read, rfl⟩ := read_eq_ok.mp success
  have last : List.Forall₂ (fun segment call => CallText (trim segment) call) [segment] [call] :=
    .cons derived .nil
  have shape : split (content ++ '|' :: segment) = ((split content).1, (split content).2 ++ [segment]) := by
    rw [split, splitFrom_append leaves, splitFrom_uncut uncut]
    rfl
  rw [read_eq_ok, shape]
  exact ⟨calls ++ [call], readCalls_eq_ok.mpr (List.rel_append (readCalls_eq_ok.mp read) last), rfl⟩

end TextTemplate.Expression
