import TextTemplate.Regex.Reader
import TextTemplate.Regex.Search

/-! Regular expressions and all their matches in a text. Matches come from left to right
and never overlap, and an empty match is not taken where the match before it ended. -/
namespace TextTemplate.Regex

theorem Thread.move_goes_position {program : Array Instruction} {text : Array Char}
    {thread next : Thread} (moved : thread.move program text = .goes next)
    (inside : thread.position ≤ text.size) :
    thread.position ≤ next.position ∧ next.position ≤ text.size := by
  simp only [Thread.move] at moved
  split at moved
  · cases moved
  · cases moved
  · split at moved
    · rename_i c present
      split at moved
      · cases moved
        have := (Array.getElem?_eq_some_iff.mp present).1
        simp only
        omega
      · cases moved
    · cases moved
  · split at moved <;> cases moved
    exact ⟨Nat.le_refl _, inside⟩
  all_goals cases moved <;> exact ⟨Nat.le_refl _, inside⟩

theorem Thread.move_forks_position {program : Array Instruction} {text : Array Char}
    {thread preferred other : Thread} (moved : thread.move program text = .forks preferred other) :
    preferred.position = thread.position ∧ other.position = thread.position := by
  simp only [Thread.move] at moved
  split at moved
  · cases moved
  · cases moved
  · split at moved
    · split at moved <;> cases moved
    · cases moved
  · split at moved <;> cases moved
  · cases moved
  · cases moved
  · cases moved
    exact ⟨rfl, rfl⟩
  · cases moved

/-- What threads have in common, and moves keep, an accepted one has as well. -/
theorem explore_keeps {program : Array Instruction} {text : Array Char} {origin : Nat} {holds : Thread → Prop}
    {entered entered' : Entered} {threads : List Thread} {accepted : Thread}
    (goes : ∀ thread next, holds thread → thread.move program text = .goes next → holds next)
    (forks : ∀ thread preferred other, holds thread → thread.move program text = .forks preferred other →
      holds preferred ∧ holds other)
    (found : explore program text origin entered threads = (some accepted, entered'))
    (all : ∀ thread ∈ threads, holds thread) : holds accepted := by
  fun_induction explore program text origin entered threads with
  | case1 => cases found
  | case2 _ thread rest _ _ _ _ ih => exact ih found (List.forall_mem_cons.mp all).2
  | case3 _ thread rest _ _ _ _ =>
    rw [Prod.mk.injEq, Option.some.injEq] at found
    exact found.1 ▸ (List.forall_mem_cons.mp all).1
  | case4 _ thread rest _ _ _ next moved ih =>
    obtain ⟨here, later⟩ := List.forall_mem_cons.mp all
    exact ih found (List.forall_mem_cons.mpr ⟨goes thread next here moved, later⟩)
  | case5 _ thread rest _ _ _ preferred other moved ih =>
    obtain ⟨here, later⟩ := List.forall_mem_cons.mp all
    obtain ⟨first, second⟩ := forks thread preferred other here moved
    exact ih found (List.forall_mem_cons.mpr ⟨first, List.forall_mem_cons.mpr ⟨second, later⟩⟩)
  | case6 _ thread rest _ ih => exact ih found (List.forall_mem_cons.mp all).2

theorem explore_position {program : Array Instruction} {text : Array Char} {origin low : Nat}
    {entered entered' : Entered} {threads : List Thread} {accepted : Thread}
    (found : explore program text origin entered threads = (some accepted, entered'))
    (bounds : ∀ thread ∈ threads, low ≤ thread.position ∧ thread.position ≤ text.size) :
    low ≤ accepted.position ∧ accepted.position ≤ text.size := by
  refine explore_keeps ?_ ?_ found bounds
  · intro thread next here moved
    have there := Thread.move_goes_position moved here.2
    exact ⟨Nat.le_trans here.1 there.1, there.2⟩
  · intro thread preferred other here moved
    obtain ⟨first, second⟩ := Thread.move_forks_position moved
    rw [first, second]
    exact ⟨here, here⟩

/-- A match is the way of the thread that is accepted from one of the starts. -/
theorem firstFrom_explored {program : Array Instruction} {text : Array Char} {origin tries start : Nat}
    {entered : Entered} {found : Match} (success : firstFrom program text origin tries start entered = some found) :
    ∃ thread before after,
      explore program text origin before [{ address := 0, position := found.span.start }] = (some thread, after) ∧
        found = ⟨⟨found.span.start, thread.position⟩, thread.trail⟩ ∧
        start ≤ found.span.start ∧ found.span.start < start + tries := by
  induction tries generalizing start entered with
  | zero => cases success
  | succ tries ih =>
    simp only [firstFrom] at success
    split at success
    · rename_i thread after explored
      cases success
      exact ⟨thread, entered, after, explored, rfl, Nat.le_refl _, by simp⟩
    · obtain ⟨thread, before, after, explored, same, low, high⟩ := ih success
      exact ⟨thread, before, after, explored, same, by omega, by omega⟩

/-- A match lies in the text and not before the position from which it was sought. -/
theorem find?_span {program : Array Instruction} {text : Array Char} {origin : Nat} {found : Match}
    (success : find? program text origin = some found) :
    origin ≤ found.span.start ∧ found.span.start ≤ found.span.stop ∧ found.span.stop ≤ text.size := by
  obtain ⟨thread, _, _, explored, same, low, high⟩ := firstFrom_explored success
  have bounds : found.span.start ≤ thread.position ∧ thread.position ≤ text.size :=
    explore_position explored (by simp; omega)
  rw [same]
  exact ⟨low, bounds⟩

/-- The match after one that ended at a position: an empty match there is passed over. -/
def findAfter? (program : Array Instruction) (text : Array Char) (stop : Nat) : Option Match :=
  match find? program text stop with
  | some found =>
    if found.span = ⟨stop, stop⟩ then find? program text (stop + 1) else some found
  | none => none

theorem findAfter?_span {program : Array Instruction} {text : Array Char} {stop : Nat} {found : Match}
    (success : findAfter? program text stop = some found) :
    stop ≤ found.span.start ∧ found.span.start ≤ found.span.stop ∧ stop < found.span.stop ∧
      found.span.stop ≤ text.size := by
  unfold findAfter? at success
  split at success
  · rename_i candidate here
    have bounds := find?_span here
    split at success
    · have bounds := find?_span success
      omega
    · rename_i apart
      cases success
      refine ⟨bounds.1, bounds.2.1, ?_, bounds.2.2⟩
      by_cases same : found.span.stop = stop
      · refine absurd ?_ apart
        cases span : found.span with
        | mk start finish =>
          rw [span] at bounds same
          simp only [Span.mk.injEq] at bounds same ⊢
          omega
      · omega
  · cases success

def matchesAfter (program : Array Instruction) (text : Array Char) (stop : Nat) : List Match :=
  match next : findAfter? program text stop with
  | none => []
  | some found =>
    have := findAfter?_span next
    found :: matchesAfter program text found.span.stop
termination_by text.size - stop

def matchesOf (program : Array Instruction) (text : Array Char) : List Match :=
  match find? program text 0 with
  | none => []
  | some found => found :: matchesAfter program text found.span.stop

end TextTemplate.Regex

namespace TextTemplate

structure Regex where
  source : String
  program : Array Regex.Instruction
  lastGroup : Nat

namespace Regex

def ofPattern (source : String) (pattern : Pattern) : Regex :=
  ⟨source, pattern.program, pattern.lastGroup⟩

def compile (flags : Flags) (source : String) : Except Defect Regex :=
  (Pattern.read flags source.toList).map (ofPattern source)

def allMatches (regex : Regex) (text : Array Char) : List Match := matchesOf regex.program text

end Regex

end TextTemplate
