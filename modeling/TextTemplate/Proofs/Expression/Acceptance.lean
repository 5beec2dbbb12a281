import Mathlib.Data.List.Forall2
import TextTemplate.Proofs.Expression.Call
import TextTemplate.Proofs.Expression.Cut
import TextTemplate.Template.Error

/-! An expression is read exactly when every segment behind the first is a call of the
grammar, and it is read as the key and the calls that the segments denote. -/
namespace TextTemplate.Expression

open Grammar
open Text
open Result (map_eq_ok mapError_eq_ok)

/-- A trimmed segment has no blanks behind its call. -/
theorem readCall_trim_eq_ok {segment : List Char} {call : Call} :
    readCall (trim segment) = .ok call ↔ CallText (trim segment) call := by
  constructor
  · intro success
    obtain ⟨written, after, derived, blanks, same⟩ := callText_of_readCall success
    cases gap : after.reverse with
    | nil =>
      rw [List.reverse_eq_nil_iff.mp gap, List.append_nil] at same
      exact same ▸ derived
    | cons c rest =>
      have ends := endsRun_trim_reverse segment
      rw [same, List.reverse_append, gap] at ends
      have blank : isBlank c = true := blanks c (by rw [← List.mem_reverse, gap]; simp)
      rw [ends c rfl] at blank
      cases blank
  · intro derived
    simpa using readCall_of_callText derived blanks_nil

theorem readCalls_eq_ok {segments : List (List Char)} {calls : List Call} :
    readCalls segments = .ok calls ↔
      List.Forall₂ (fun segment call => CallText (trim segment) call) segments calls := by
  induction segments generalizing calls with
  | nil => simp [readCalls, eq_comm]
  | cons segment segments ih =>
    rw [List.forall₂_cons_left_iff]
    simp only [readCalls]
    cases first : readCall (trim segment) with
    | error defect =>
      have none (call : Call) : ¬ CallText (trim segment) call := by
        intro derived
        rw [readCall_trim_eq_ok.mpr derived] at first
        cases first
      simp [none]
    | ok call =>
      have derived := readCall_trim_eq_ok.mp first
      rw [map_eq_ok]
      constructor
      · rintro ⟨rest, read, rfl⟩
        exact ⟨call, rest, derived, ih.mp read, rfl⟩
      · rintro ⟨other, rest, own, later, rfl⟩
        rw [readCall_trim_eq_ok.mpr own] at first
        cases first
        exact ⟨rest, ih.mpr later, rfl⟩

theorem read_eq_ok {content : List Char} {expression : Expression} :
    read content = .ok expression ↔
      ∃ calls, readCalls (Pipeline.split content).2 = .ok calls ∧
        (⟨String.ofList (trim (Pipeline.split content).1), calls⟩ : Expression) = expression := by
  rw [read]
  exact map_eq_ok

theorem isName_of_readCalls {segments : List (List Char)} {calls : List Call}
    (success : readCalls segments = .ok calls) : ∀ call ∈ calls, Name.isName call.name.toList = true := by
  induction readCalls_eq_ok.mp success with
  | nil => simp
  | cons derived rest ih =>
    exact List.forall_mem_cons.mpr ⟨isName_of_callText derived, ih (readCalls_eq_ok.mpr rest)⟩

theorem isName_of_read {content : List Char} {expression : Expression} (success : read content = .ok expression) :
    ∀ call ∈ expression.calls, Name.isName call.name.toList = true := by
  obtain ⟨calls, accepted, rfl⟩ := read_eq_ok.mp success
  exact isName_of_readCalls accepted

theorem exists_forall₂_iff {relation : α → β → Prop} {items : List α} :
    (∃ others, List.Forall₂ relation items others) ↔ ∀ item ∈ items, ∃ other, relation item other := by
  induction items with
  | nil => simp
  | cons item items ih =>
    simp only [List.forall₂_cons_left_iff, List.forall_mem_cons, ← ih]
    constructor
    · rintro ⟨_, other, others, first, rest, rfl⟩
      exact ⟨⟨other, first⟩, others, rest⟩
    · rintro ⟨⟨other, first⟩, others, rest⟩
      exact ⟨other :: others, other, others, first, rest, rfl⟩

/-- The parts of a content are those between the pipes outside of literals. Whatever the
position, the content is an expression exactly when each part behind the first is a call
once it is trimmed; then the first part is the key and the calls are what the others denote. -/
theorem reads_iff_derivable (content : List Char) (position : Nat) :
    ∃ first later, Pipeline.IsCut .outside content first later ∧
      (∀ other rest, Pipeline.IsCut .outside content other rest → other = first ∧ rest = later) ∧
      ((∃ expression, (read content).mapError (TemplateError.ofDefect position) = .ok expression) ↔
        ∀ segment ∈ later, ∃ call, CallText (trim segment) call) ∧
      ∀ expression, (read content).mapError (TemplateError.ofDefect position) = .ok expression ↔
        expression.key = String.ofList (trim first) ∧
          List.Forall₂ (fun segment call => CallText (trim segment) call) later expression.calls := by
  have reads (expression : Expression) :
      (read content).mapError (TemplateError.ofDefect position) = .ok expression ↔
        expression.key = String.ofList (trim (Pipeline.split content).1) ∧
          List.Forall₂ (fun segment call => CallText (trim segment) call) (Pipeline.split content).2
            expression.calls := by
    rw [mapError_eq_ok, read_eq_ok]
    constructor
    · rintro ⟨calls, success, rfl⟩
      exact ⟨rfl, readCalls_eq_ok.mp success⟩
    · rintro ⟨key, derived⟩
      exact ⟨expression.calls, readCalls_eq_ok.mpr derived, by rw [← key]⟩
  refine ⟨(Pipeline.split content).1, (Pipeline.split content).2, Pipeline.split_eq_iff.mp rfl, ?_, ?_, reads⟩
  · intro other rest cut
    rw [Pipeline.split_eq_iff.mpr cut]
    exact ⟨rfl, rfl⟩
  · rw [← exists_forall₂_iff]
    simp only [reads]
    constructor
    · rintro ⟨expression, _, derived⟩
      exact ⟨expression.calls, derived⟩
    · rintro ⟨calls, derived⟩
      exact ⟨⟨_, calls⟩, rfl, derived⟩

end TextTemplate.Expression
