import TextTemplate.Proofs.Regex.Exploration
import TextTemplate.Proofs.Text.Trim

/-! What threads do in code that is laid out somewhere in a program: a run of single
characters, and a greedy loop over a class, which gives back one character at a time. -/
namespace TextTemplate.Regex

open Text (EndsRun)

variable {program : Array Instruction} {source : List Char}

/-- The code stands in the program from an address on. -/
def Laid (program : Array Instruction) (base : Nat) (code : List Instruction) : Prop :=
  ∀ (index : Nat) (instruction : Instruction), code[index]? = some instruction →
    program[base + index]? = some instruction

theorem Laid.head (laid : Laid program base (instruction :: code)) : program[base]? = some instruction :=
  laid 0 instruction rfl

theorem Laid.tail (laid : Laid program base (instruction :: code)) : Laid program (base + 1) code := by
  intro index later found
  rw [Nat.add_assoc, Nat.add_comm 1]
  exact laid (index + 1) later found

theorem Laid.right (laid : Laid program base (first ++ second)) : Laid program (base + first.length) second := by
  induction first generalizing base with
  | nil => exact laid
  | cons instruction first ih =>
    have shifted := ih laid.tail
    rw [Nat.add_assoc, Nat.add_comm 1] at shifted
    exact shifted

theorem Laid.left (laid : Laid program base (first ++ second)) : Laid program base first := by
  intro index instruction found
  obtain ⟨inside, _⟩ := List.getElem?_eq_some_iff.mp found
  exact laid index instruction (by rw [List.getElem?_append_left inside, found])

theorem laid_toArray (code : List Instruction) : Laid code.toArray 0 code := by
  intro index instruction found
  simpa using found

theorem getElem?_of_drop {position : Nat} (split : source.drop position = c :: rest) :
    source.toArray[position]? = some c := by
  have first := congrArg List.head? split
  simpa [List.head?_drop] using first

theorem getElem?_of_drop_nil {position : Nat} (split : source.drop position = []) :
    source.toArray[position]? = none := by
  simpa using split

theorem drop_next {position : Nat} (split : source.drop position = c :: rest) :
    source.drop (position + 1) = rest := by
  rw [← List.drop_drop, split, List.drop_one, List.tail_cons]

theorem has_single {c d : Char} : (CharClass.single c).has d = true ↔ d = c := by
  simp only [CharClass.single, CharClass.has, CharClass.holds, Bool.and_eq_true, decide_eq_true_eq]
  constructor
  · intro bounds
    exact Char.toNat_inj.mp (Nat.le_antisymm bounds.2 bounds.1)
  · rintro rfl
    exact ⟨Nat.le_refl _, Nat.le_refl _⟩

theorem move_take (thread : Thread) (laid : Laid program thread.address (.take chars :: code))
    (split : source.drop thread.position = c :: rest) (has : chars.has c = true) :
    thread.move program source.toArray =
      .goes { thread with address := thread.address + 1, position := thread.position + 1 } := by
  simp only [Thread.move, laid.head, getElem?_of_drop split, has, if_true]

theorem move_take_dies (thread : Thread) (laid : Laid program thread.address (.take chars :: code))
    (ends : EndsRun chars.has (source.drop thread.position)) :
    thread.move program source.toArray = .dies := by
  cases split : source.drop thread.position with
  | nil => simp only [Thread.move, laid.head, getElem?_of_drop_nil split]
  | cons c rest =>
    rw [split] at ends
    simp [Thread.move, laid.head, getElem?_of_drop split, ends c rfl]

def takes (text : List Char) : List Instruction := text.map fun c => .take (.single c)

/-- A text that stands in the source is taken. -/
theorem leads_takes {address position : Nat} {trail : Trail} (laid : Laid program address (takes text))
    (split : source.drop position = text ++ rest)
    (onward : Leads program source.toArray ⟨address + text.length, position + text.length, trail⟩ result) :
    Leads program source.toArray ⟨address, position, trail⟩ result := by
  induction text generalizing address position with
  | nil => exact onward
  | cons c text ih =>
    refine .goes (move_take _ laid split (has_single.mpr rfl)) (ih laid.tail (drop_next split) ?_)
    simpa [Nat.add_assoc, Nat.add_comm 1] using onward

theorem dead_takes {address position : Nat} {trail : Trail} (laid : Laid program address (takes text))
    (absent : ∀ rest, source.drop position ≠ text ++ rest) :
    Dead program source.toArray ⟨address, position, trail⟩ := by
  induction text generalizing address position with
  | nil => exact absurd rfl (absent _)
  | cons c text ih =>
    cases split : source.drop position with
    | nil =>
      have ends : EndsRun (CharClass.single c).has (source.drop position) := by
        rw [split]
        exact Text.endsRun_nil _
      exact ⟨0, .dies (move_take_dies ⟨address, position, trail⟩ laid ends)⟩
    | cons d rest =>
      by_cases same : d = c
      · refine .goes (move_take _ laid split (has_single.mpr same)) (ih laid.tail fun later found => ?_)
        rw [drop_next split] at found
        exact absent later (by rw [split, same, found]; rfl)
      · have other : (CharClass.single c).has d = false := by
          apply Bool.eq_false_iff.mpr
          intro has
          exact same (has_single.mp has)
        have ends : EndsRun (CharClass.single c).has (source.drop position) := by
          rw [split]
          exact Text.endsRun_cons other rest
        exact ⟨0, .dies (move_take_dies ⟨address, position, trail⟩ laid ends)⟩

section Loop

variable {base position stop : Nat} {trail : Trail} {chars : CharClass} {run rest : List Char}
  (laid : Laid program base (.take chars :: .fork base (base + 2) :: code))

include laid

theorem move_fork : Thread.move program source.toArray ⟨base + 1, position, trail⟩ =
    .forks ⟨base, position, trail⟩ ⟨base + 2, position, trail⟩ := by
  simp only [Thread.move, laid.tail.head]

/-- Behind a round the loop is a dead end when every way out of it is one. -/
theorem dead_round (split : source.drop position = run ++ rest) (inside : ∀ c ∈ run, chars.has c = true)
    (ends : EndsRun chars.has rest)
    (exits : ∀ stop, position ≤ stop → stop ≤ position + run.length →
      Dead program source.toArray ⟨base + 2, stop, trail⟩) :
    Dead program source.toArray ⟨base + 1, position, trail⟩ := by
  induction run generalizing position with
  | nil =>
    refine .other (move_fork laid) ⟨0, .dies (move_take_dies ⟨base, position, trail⟩ laid ?_)⟩ ?_
    · exact split ▸ ends
    · exact exits position (Nat.le_refl _) (Nat.le_refl _)
  | cons c run ih =>
    have onward := ih (drop_next split) (fun d member => inside d (List.mem_cons_of_mem c member))
      fun stop above below => exits stop (by omega) (by rw [List.length_cons]; omega)
    refine .other (move_fork laid) (.goes (move_take _ laid split (inside c List.mem_cons_self)) onward) ?_
    exact exits position (Nat.le_refl _) (Nat.le_add_right _ _)

/-- Behind a round the loop takes the last way out that leads anywhere. -/
theorem leads_round (split : source.drop position = run ++ rest) (inside : ∀ c ∈ run, chars.has c = true)
    (ends : EndsRun chars.has rest) (above : position ≤ stop) (below : stop ≤ position + run.length)
    (exit : Leads program source.toArray ⟨base + 2, stop, trail⟩ (some accepted))
    (dead : ∀ later, stop < later → later ≤ position + run.length →
      Dead program source.toArray ⟨base + 2, later, trail⟩) :
    Leads program source.toArray ⟨base + 1, position, trail⟩ (some accepted) := by
  induction run generalizing position with
  | nil =>
    obtain rfl : stop = position := Nat.le_antisymm below above
    refine .other (move_fork laid) ⟨0, .dies (move_take_dies ⟨base, stop, trail⟩ laid ?_)⟩ exit
    exact split ▸ ends
  | cons c run ih =>
    have behind : ∀ d ∈ run, chars.has d = true := fun d member => inside d (List.mem_cons_of_mem c member)
    have taken := move_take ⟨base, position, trail⟩ laid split (inside c List.mem_cons_self)
    rw [List.length_cons] at below dead
    by_cases here : stop = position
    · subst here
      have onward := dead_round laid (drop_next split) behind ends
        fun later past within => dead later (by omega) (by omega)
      exact .other (move_fork laid) (.goes taken onward) exit
    · have onward := ih (drop_next split) behind (by omega) (by omega)
        fun later past within => dead later past (by omega)
      exact .preferred (move_fork laid) (.goes taken onward)

/-- A loop of one round at least is a dead end when every way out behind a character is one. -/
theorem dead_loop (split : source.drop position = run ++ rest) (inside : ∀ c ∈ run, chars.has c = true)
    (ends : EndsRun chars.has rest)
    (exits : ∀ stop, position < stop → stop ≤ position + run.length →
      Dead program source.toArray ⟨base + 2, stop, trail⟩) :
    Dead program source.toArray ⟨base, position, trail⟩ := by
  cases run with
  | nil => exact ⟨0, .dies (move_take_dies ⟨base, position, trail⟩ laid (split ▸ ends))⟩
  | cons c run =>
    have onward := dead_round laid (drop_next split) (fun d member => inside d (List.mem_cons_of_mem c member)) ends
      fun stop above below => exits stop (by omega) (by rw [List.length_cons]; omega)
    exact .goes (move_take _ laid split (inside c List.mem_cons_self)) onward

theorem leads_loop (split : source.drop position = run ++ rest) (inside : ∀ c ∈ run, chars.has c = true)
    (ends : EndsRun chars.has rest) (above : position < stop) (below : stop ≤ position + run.length)
    (exit : Leads program source.toArray ⟨base + 2, stop, trail⟩ (some accepted))
    (dead : ∀ later, stop < later → later ≤ position + run.length →
      Dead program source.toArray ⟨base + 2, later, trail⟩) :
    Leads program source.toArray ⟨base, position, trail⟩ (some accepted) := by
  cases run with
  | nil => exact absurd (Nat.lt_of_lt_of_le above below) (Nat.lt_irrefl _)
  | cons c run =>
    rw [List.length_cons] at below dead
    have onward := leads_round laid (drop_next split) (fun d member => inside d (List.mem_cons_of_mem c member)) ends
      above (by omega) exit fun later past within => dead later past (by omega)
    exact .goes (move_take _ laid split (inside c List.mem_cons_self)) onward

end Loop

end TextTemplate.Regex
