import TextTemplate.Proofs.Expression.RoundTrip

/-! Expressions that grow at their end. The splitter and the reader of argument lists follow
string literals each in its own way. They agree on every segment that is read as a call: the
splitter meets no pipe outside of literals in it and stands outside behind it. A segment behind
one more pipe is therefore the next call and changes nothing before it. -/
namespace TextTemplate

def Expression.followedBy (expression : Expression) (calls : List Call) : Expression :=
  { expression with calls := expression.calls ++ calls }

namespace Expression

open Pipeline (joined split splitFrom splitFrom_append splitFrom_isCut)
open Result (mapError_eq_ok)
open Text

variable {content segment source : List Char} {expression : Expression} {call : Call}

theorem neutral_of_readCall (accepted : readCall (trim segment) = .ok call) : Neutral segment := by
  obtain ⟨before, after, left, right, whole⟩ := exists_blanks_trim segment
  have inner := neutral_callText (readCall_trim_eq_ok.mp accepted)
  rw [whole]
  exact ((neutral_blanks left).append inner).append (neutral_blanks right)

theorem neutral_of_arguments {values : List Value} (accepted : Arguments.read source = .ok values) :
    Neutral source := by
  obtain ⟨between, after, inner, last, shape⟩ := Arguments.read_eq_ok.mp accepted
  have close : Neutral (')' :: after) := neutral_cons (by decide) (neutral_blanks last)
  rcases shape with ⟨_, rfl⟩ | ⟨written, items, rfl⟩
  · exact (neutral_blanks inner).append close
  · exact ((neutral_blanks inner).append (neutral_listText items)).append close

/-- One more segment is one more call, and leaves room for the next. -/
theorem ReadBack.followedBy (held : ReadBack content expression) (accepted : readCall (trim segment) = .ok call) :
    ReadBack (content ++ '|' :: segment) (expression.followedBy [call]) := by
  have neutral := neutral_of_readCall accepted
  constructor
  · exact read_append held.reads held.leaves neutral.uncut (readCall_trim_eq_ok.mp accepted)
  · rw [Quoting.run_append, held.leaves]
    exact neutral.leaves

theorem ReadBack.joined {segments : List (List Char)} {calls : List Call} (held : ReadBack content expression)
    (accepted : List.Forall₂ (fun segment call => readCall (trim segment) = .ok call) segments calls) :
    ReadBack (joined content segments) (expression.followedBy calls) := by
  induction accepted generalizing content expression with
  | nil => simpa [Pipeline.joined, Expression.followedBy] using held
  | @cons segment call segments calls first rest ih =>
    have shape : Pipeline.joined content (segment :: segments) = Pipeline.joined (content ++ '|' :: segment) segments := by
      simp [Pipeline.joined]
    have calls : expression.followedBy (call :: calls) = (expression.followedBy [call]).followedBy calls := by
      simp [Expression.followedBy]
    rw [shape, calls]
    exact ih (held.followedBy first)

/-- If one more pipe adds one call, then what stands behind the pipe is that call. -/
theorem readCall_of_followedBy (held : ReadBack content expression)
    (success : read (content ++ '|' :: segment) = .ok (expression.followedBy [call])) :
    readCall (trim segment) = .ok call := by
  obtain ⟨calls, own, rfl⟩ := read_eq_ok.mp held.reads
  obtain ⟨more, read, same⟩ := read_eq_ok.mp success
  obtain rfl : more = calls ++ [call] := congrArg Expression.calls same
  have cut := splitFrom_isCut .outside segment
  rw [split, splitFrom_append held.leaves] at read
  have last := List.forall₂_drop_append _ _ _ (readCalls_eq_ok.mp read)
  have length := (readCalls_eq_ok.mp own).length_eq
  rw [← length, split, List.drop_left] at last
  cases last with
  | cons derived none =>
    rw [List.forall₂_nil_right_iff.mp none] at cut
    have whole : segment = (splitFrom .outside segment).1 := by simpa [Pipeline.joined] using cut.joins
    exact readCall_trim_eq_ok.mpr (whole ▸ derived)

/-- Behind an expression that ends outside of literals a segment adds a call exactly when it is
read as that call. It ends outside of literals again, so pipelines grow to any length. What is
read as a call or as an argument list shows the splitter no pipe at which to cut. -/
theorem read_followedBy {position : Nat} (leaves : Quoting.run .outside content = .outside)
    (success : (read content).mapError (TemplateError.ofDefect position) = .ok expression) :
    (∀ segment call, readCall (trim segment) = .ok call ↔
      (read (content ++ '|' :: segment)).mapError (TemplateError.ofDefect position) =
        .ok (expression.followedBy [call])) ∧
    (∀ segments calls, List.Forall₂ (fun segment call => readCall (trim segment) = .ok call) segments calls →
      (read (joined content segments)).mapError (TemplateError.ofDefect position) =
        .ok (expression.followedBy calls) ∧
      Quoting.run .outside (joined content segments) = .outside) ∧
    (∀ segment call, readCall (trim segment) = .ok call → Neutral segment) ∧
    ∀ source values, Arguments.read source = .ok values → Neutral source := by
  have held : ReadBack content expression := ⟨mapError_eq_ok.mp success, leaves⟩
  refine ⟨?_, ?_, fun _ _ => neutral_of_readCall, fun _ _ => neutral_of_arguments⟩
  · intro segment call
    rw [mapError_eq_ok]
    constructor
    · intro accepted
      exact (held.followedBy accepted).reads
    · exact readCall_of_followedBy held
  · intro segments calls accepted
    have grown := held.joined accepted
    exact ⟨mapError_eq_ok.mpr grown.reads, grown.leaves⟩

/-- Pipes in literals, a quote of the other kind and a doubled backslash before the closing quote. -/
theorem read_followedBy_pipes_in_literals :
    (read "x|def('a|b')| replace(\"'|\", '\\\\') |upper".toList).mapError (TemplateError.ofDefect 3) =
        .ok ⟨"x", [⟨"def", [.str "a|b"]⟩, ⟨"replace", [.str "'|", .str "\\"]⟩, ⟨"upper", []⟩]⟩ ∧
      Quoting.run .outside "x|def('a|b')| replace(\"'|\", '\\\\') |upper".toList = .outside := by
  have success : (read "x|def('a|b')".toList).mapError (TemplateError.ofDefect 3) =
      .ok ⟨"x", [⟨"def", [.str "a|b"]⟩]⟩ := by decide +kernel
  have replacing : readCall (trim " replace(\"'|\", '\\\\') ".toList) =
      .ok ⟨"replace", [.str "'|", .str "\\"]⟩ := by decide +kernel
  have raising : readCall (trim "upper".toList) = .ok ⟨"upper", []⟩ := rfl
  have leaves : Quoting.run .outside "x|def('a|b')".toList = .outside := rfl
  have whole : "x|def('a|b')| replace(\"'|\", '\\\\') |upper".toList =
      joined "x|def('a|b')".toList [" replace(\"'|\", '\\\\') ".toList, "upper".toList] := by decide +kernel
  have grown := (read_followedBy leaves success).2.1 _ _ (.cons replacing (.cons raising .nil))
  rw [whole]
  exact grown

end Expression

end TextTemplate
