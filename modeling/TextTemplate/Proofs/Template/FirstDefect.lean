import TextTemplate.Proofs.Expression.Fault
import TextTemplate.Proofs.Template.Segments

/-! Why a source does not compile. The first match whose content is no expression decides, and in
it the first segment that is no call: the error says what is wrong with that segment, and at
which byte the match begins. -/
namespace TextTemplate.Template

open Expression (IsCall IsExpression isExpression_iff not_isExpression_iff)
open Expression.Grammar
open Expression.Pipeline (IsCut)
open Regex (Match)
open Result (map_eq_error)
open Rows (First)
open Text (trim)

/-- The first match whose content is no expression begins at a byte, and the first of its segments
that is no call is the one given, without the blanks around it. -/
inductive Culprit (delimiter : Delimiter) (source : String) : Nat → List Char → Prop where
  | culprit {found : Match} {key segment : List Char} {later : List (List Char)}
      (first : First (fun here => IsExpression (content source.toList.toArray here))
        (delimiter.regex.allMatches source.toList.toArray) found)
      (cut : IsCut .outside (content source.toList.toArray found) key later) (bad : First IsCall later segment) :
      Culprit delimiter source (byteAt source.toList found.span.start) (trim segment)

variable {delimiter : Delimiter} {filters : FilterTable} {source : String}

theorem segmentsFrom_eq_error {source : List Char} {offset : Nat} {found : List Match} {error : TemplateError}
    (row : Row source.length offset found) :
    segmentsFrom source.toArray offset (byteAt source offset) found = .error error ↔
      ∃ here defect, First (fun here => IsExpression (content source.toArray here)) found here ∧
        Expression.read (content source.toArray here) = .error defect ∧
        error = .ofDefect (byteAt source here.span.start) defect := by
  induction found generalizing offset with
  | nil => simp [segmentsFrom, Rows.not_first_nil]
  | cons here rest ih =>
    have behind := row.behind here List.mem_cons_self
    have ordered := (row.proper here List.mem_cons_self).ordered
    simp only [segmentsFrom, byteAt_slice behind, byteAt_slice ordered, Rows.first_cons]
    cases read : Expression.read (content source.toArray here) with
    | error defect =>
      have bad : ¬ IsExpression (content source.toArray here) := not_isExpression_iff.mpr ⟨defect, read⟩
      constructor
      · intro failure
        cases failure
        exact ⟨here, defect, .inl ⟨bad, rfl⟩, read, rfl⟩
      · rintro ⟨other, again, ⟨_, rfl⟩ | ⟨good, _⟩, failed, rfl⟩
        · rw [read] at failed
          cases failed
          rfl
        · exact absurd good bad
    | ok expression =>
      have good : IsExpression (content source.toArray here) := isExpression_iff.mpr ⟨expression, read⟩
      simp only [map_eq_error, ih row.tail, good, not_true, false_and, true_and, false_or]

/-- Compiling fails for the fault of the culprit, at the byte where its match begins. -/
theorem compile_eq_error_iff {error : TemplateError} :
    compile delimiter filters source = .error error ↔
      ∃ start segment defect, Culprit delimiter source start segment ∧ SegmentFault segment defect ∧
        error = .ofDefect start defect := by
  have failing : compile delimiter filters source = .error error ↔
      ∃ here defect, First (fun here => IsExpression (content source.toList.toArray here))
          (delimiter.regex.allMatches source.toList.toArray) here ∧
        Expression.read (content source.toList.toArray here) = .error defect ∧
        error = .ofDefect (byteAt source.toList here.span.start) defect := by
    simp only [compile]
    split
    · rename_i nothing
      simp [nothing, Rows.not_first_nil]
    · rw [map_eq_error]
      exact segmentsFrom_eq_error (row_matchesOf _ _)
  rw [failing]
  constructor
  · rintro ⟨here, defect, first, failed, rfl⟩
    obtain ⟨key, later, segment, cut, bad, fault⟩ := Expression.read_eq_error.mp failed
    exact ⟨_, _, defect, .culprit first cut bad, fault, rfl⟩
  · rintro ⟨_, _, defect, ⟨first, cut, bad⟩, fault, rfl⟩
    exact ⟨_, defect, first, Expression.read_eq_error.mpr ⟨_, _, _, cut, bad, fault⟩, rfl⟩

theorem Culprit.unique {start other : Nat} {segment part : List Char} (one : Culprit delimiter source start segment)
    (two : Culprit delimiter source other part) : start = other ∧ segment = part := by
  obtain ⟨first, cut, bad⟩ := one
  obtain ⟨again, cut', bad'⟩ := two
  obtain rfl := first.unique again
  have same := Expression.Pipeline.split_eq_iff.mpr cut
  rw [Expression.Pipeline.split_eq_iff.mpr cut'] at same
  cases same
  exact ⟨rfl, congrArg trim (bad.unique bad')⟩

theorem Culprit.exists_fault {start : Nat} {segment : List Char} (culprit : Culprit delimiter source start segment) :
    ∃ defect, SegmentFault segment defect := by
  obtain ⟨_, _, bad⟩ := culprit
  obtain ⟨before, after, _, _, uncalled⟩ := bad
  exact Expression.not_isCall_iff.mp uncalled

theorem Culprit.compile_eq {start : Nat} {segment : List Char} {defect : Expression.Defect}
    (culprit : Culprit delimiter source start segment) (fault : SegmentFault segment defect) :
    compile delimiter filters source = .error (.ofDefect start defect) :=
  compile_eq_error_iff.mpr ⟨start, segment, defect, culprit, fault, rfl⟩

theorem exists_culprit : (∃ start segment, Culprit delimiter source start segment) ↔
    ∃ found ∈ delimiter.regex.allMatches source.toList.toArray,
      ¬ IsExpression (content source.toList.toArray found) := by
  rw [← Rows.exists_first]
  constructor
  · rintro ⟨_, _, first, _, _⟩
    exact ⟨_, first⟩
  · rintro ⟨found, first⟩
    obtain ⟨before, after, _, _, unread⟩ := id first
    obtain ⟨defect, failed⟩ := not_isExpression_iff.mp unread
    obtain ⟨key, later, segment, cut, bad, _⟩ := Expression.read_eq_error.mp failed
    exact ⟨_, _, .culprit first cut bad⟩

theorem compile_fails_iff : (∃ error, compile delimiter filters source = .error error) ↔
    ∃ found ∈ delimiter.regex.allMatches source.toList.toArray,
      ¬ IsExpression (content source.toList.toArray found) := by
  rw [← exists_culprit]
  constructor
  · rintro ⟨error, failure⟩
    obtain ⟨start, segment, _, culprit, _⟩ := compile_eq_error_iff.mp failure
    exact ⟨start, segment, culprit⟩
  · rintro ⟨start, segment, culprit⟩
    obtain ⟨defect, fault⟩ := culprit.exists_fault
    exact ⟨_, culprit.compile_eq fault⟩

/-- Where the match of a culprit begins is a character boundary of the source, its end perhaps. -/
theorem Culprit.boundary {start : Nat} {segment : List Char} (culprit : Culprit delimiter source start segment) :
    (⟨start⟩ : String.Pos.Raw).IsValid source ∧ start ≤ source.utf8ByteSize := by
  cases culprit with
  | @culprit found =>
    have rest := rest_byteAt source found.span.start
    have size := rest.size
    rw [String.size_toByteArray] at size
    exact ⟨rest.isValid, size ▸ Nat.le_add_right _ _⟩

theorem message_malformedArguments (name : String) (reason : Expression.ArgumentDefect) (position : Nat) :
    (TemplateError.malformedArguments name reason position).message =
      "malformed filter arguments" ++ TemplateError.atByte position ++ ": " ++ (name ++ ": " ++ reason.message) :=
  calc (TemplateError.malformedArguments name reason position).message
    _ = "malformed filter arguments" ++ TemplateError.atByte position ++ ": " ++ name ++ ": " ++ reason.message := rfl
    _ = _ := by simp only [String.append_assoc]

theorem Culprit.invalid_iff {start : Nat} {segment : List Char} (culprit : Culprit delimiter source start segment) :
    compile delimiter filters source = .error (.invalidFilterName (String.ofList segment) start) ↔ Misnamed segment := by
  constructor
  · intro reported
    obtain ⟨defect, fault⟩ := culprit.exists_fault
    rw [culprit.compile_eq fault] at reported
    cases fault with
    | misnamed bad => exact bad
    | malformed => simp only [TemplateError.ofDefect, Except.error.injEq, reduceCtorEq] at reported
  · intro bad
    exact culprit.compile_eq (.misnamed bad)

/-- A culprit with a proper name is reported by it, with what is wrong in its parentheses. -/
theorem Culprit.malformed {start : Nat} {segment : List Char} (culprit : Culprit delimiter source start segment)
    (named : ¬ Misnamed segment) : ∃ name gap arguments reason,
      Heading segment name gap ('(' :: arguments) ∧ NameText name ∧ ArgumentsFault arguments reason ∧
      compile delimiter filters source = .error (.malformedArguments (String.ofList name) reason start) ∧
      (TemplateError.malformedArguments (String.ofList name) reason start).message =
        "malformed filter arguments" ++ TemplateError.atByte start ++ ": " ++
          (String.ofList name ++ ": " ++ reason.message) := by
  obtain ⟨defect, fault⟩ := culprit.exists_fault
  cases fault with
  | misnamed bad => exact absurd bad named
  | malformed heading proper fault =>
    refine ⟨_, _, _, _, heading, proper, fault, ?_, message_malformedArguments _ _ _⟩
    exact culprit.compile_eq (.malformed heading proper fault)

/-- Compiling fails exactly when the content of some match is no expression, and the first such match, with the
first of its segments that is no call, decides the error. A segment that is ill named is reported as a whole, and
else the name in front of its parentheses with what is wrong behind them; the position is the byte at
which the match begins. Nothing else has a say in it: neither later matches, later segments nor filters. -/
theorem compile_eq_error (delimiter : Delimiter) (filters : FilterTable) (source : String) :
    (delimiter.regex.allMatches source.toList.toArray).Pairwise (fun earlier later =>
        byteAt source.toList earlier.span.stop ≤ byteAt source.toList later.span.start) ∧
      ((∃ error, compile delimiter filters source = .error error) ↔
        ∃ found ∈ delimiter.regex.allMatches source.toList.toArray,
          ¬ IsExpression (content source.toList.toArray found)) ∧
      (∀ error, compile delimiter filters source = .error error ↔
        ∃ start segment defect, Culprit delimiter source start segment ∧ SegmentFault segment defect ∧
          error = .ofDefect start defect) ∧
      ∀ start segment, Culprit delimiter source start segment →
        (⟨start⟩ : String.Pos.Raw).IsValid source ∧ start ≤ source.utf8ByteSize ∧
        (compile delimiter filters source = .error (.invalidFilterName (String.ofList segment) start) ↔
          Misnamed segment) ∧
        (¬ Misnamed segment → ∃ name gap arguments reason,
          Heading segment name gap ('(' :: arguments) ∧ NameText name ∧ ArgumentsFault arguments reason ∧
          compile delimiter filters source = .error (.malformedArguments (String.ofList name) reason start) ∧
          (TemplateError.malformedArguments (String.ofList name) reason start).message =
            "malformed filter arguments" ++ TemplateError.atByte start ++ ": " ++
              (String.ofList name ++ ": " ++ reason.message)) ∧
        ∀ other others text, Culprit other text start segment →
          ∀ error, compile other others text = .error error ↔ compile delimiter filters source = .error error := by
  refine ⟨?_, compile_fails_iff, fun _ => compile_eq_error_iff, ?_⟩
  · exact (row_matchesOf _ _).row.imp fun before => byteAt_mono before.apart
  · intro start segment culprit
    obtain ⟨valid, inside⟩ := culprit.boundary
    refine ⟨valid, inside, culprit.invalid_iff, culprit.malformed, ?_⟩
    intro other others text same error
    obtain ⟨defect, fault⟩ := culprit.exists_fault
    rw [same.compile_eq fault, culprit.compile_eq fault]

/-- A quote that is never closed takes the pipe behind it into its segment. The filter that nobody knows, before
it, and the number in the place of a name, behind it, are not what is reported. -/
theorem compile_eq_error_open_quote :
    compile .standard ∅ "é$\x7ba|nope\x7d$\x7bx|up|def('|9\x7d$\x7by|9\x7d" =
      .error (.malformedArguments "def" .unclosedString 11) := by
  have found : Delimiter.standard.regex.allMatches "é$\x7ba|nope\x7d$\x7bx|up|def('|9\x7d$\x7by|9\x7d".toList.toArray =
      [⟨⟨1, 10⟩, ⟨[(1, 3)], [(1, ⟨3, 9⟩)]⟩⟩, ⟨⟨10, 25⟩, ⟨[(1, 12)], [(1, ⟨12, 24⟩)]⟩⟩,
        ⟨⟨25, 31⟩, ⟨[(1, 27)], [(1, ⟨27, 30⟩)]⟩⟩] := by decide +kernel
  have known : content "é$\x7ba|nope\x7d$\x7bx|up|def('|9\x7d$\x7by|9\x7d".toList.toArray
      ⟨⟨1, 10⟩, ⟨[(1, 3)], [(1, ⟨3, 9⟩)]⟩⟩ = "a|nope".toList := by decide +kernel
  have held : content "é$\x7ba|nope\x7d$\x7bx|up|def('|9\x7d$\x7by|9\x7d".toList.toArray
      ⟨⟨10, 25⟩, ⟨[(1, 12)], [(1, ⟨12, 24⟩)]⟩⟩ = "x|up|def('|9".toList := by decide +kernel
  have start : byteAt "é$\x7ba|nope\x7d$\x7bx|up|def('|9\x7d$\x7by|9\x7d".toList 10 = 11 := rfl
  have fault : SegmentFault (trim "def('|9".toList) (.malformedArguments "def" .unclosedString) := by
    have named : NameText "def".toList := Expression.isName_iff.mp rfl
    have opened : ∀ between rest, Text.Blanks between → "'|9".toList ≠ between ++ ')' :: rest := by
      intro between rest _ same
      have member : ')' ∈ "'|9".toList := by simp [same]
      exact absurd member (by decide)
    have unclosed : LiteralFault "'|9".toList .unclosedString := Expression.Literal.read_eq_error.mp rfl
    have list := ListFault.literal Text.blanks_nil (Text.endsRun_cons (by decide) _) unclosed
    exact .malformed (Expression.heading_of_name named Text.blanks_nil _) named (.list opened list)
  have cut : IsCut .outside "x|up|def('|9".toList "x".toList ["up".toList, "def('|9".toList] :=
    Expression.Pipeline.split_eq_iff.mp rfl
  have up : IsCall "up".toList := ⟨⟨"up", []⟩, Expression.readCall_trim_eq_ok.mp rfl⟩
  have bad : First IsCall ["up".toList, "def('|9".toList] "def('|9".toList :=
    ⟨_, [], rfl, List.forall_mem_singleton.mpr up, Expression.not_isCall_iff.mpr ⟨_, fault⟩⟩
  have readable : IsExpression "a|nope".toList := isExpression_iff.mpr ⟨_, rfl⟩
  have unreadable : ¬ IsExpression "x|up|def('|9".toList :=
    not_isExpression_iff.mpr ⟨_, Expression.read_eq_error.mpr ⟨_, _, _, cut, bad, fault⟩⟩
  have culprit : Culprit .standard "é$\x7ba|nope\x7d$\x7bx|up|def('|9\x7d$\x7by|9\x7d" 11
      (trim "def('|9".toList) := by
    rw [← known] at readable
    rw [← held] at cut unreadable
    rw [← start]
    exact .culprit ⟨[_], _, found, List.forall_mem_singleton.mpr readable, unreadable⟩ cut bad
  exact ((compile_eq_error .standard ∅ _).2.2.1 _).mpr ⟨_, _, _, culprit, fault, rfl⟩

end TextTemplate.Template
