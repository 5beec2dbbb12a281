import TextTemplate.Regex.Search

/-! Plain backtracking as a relation between a thread and the thread that it ends with. The
result is unique, and what a thread has captured has no influence on the way it takes. -/
namespace TextTemplate.Regex

variable {program : Array Instruction} {text : Array Char}

/-- What backtracking makes of a thread, and in how many steps: the first thread that is
accepted, or none when every way leads nowhere. -/
inductive Outcome (program : Array Instruction) (text : Array Char) :
    Nat → Thread → Option Thread → Prop where
  | dies (moved : thread.move program text = .dies) : Outcome program text 0 thread none
  | accepts (moved : thread.move program text = .accepts) : Outcome program text 0 thread (some thread)
  | goes (moved : thread.move program text = .goes next) (onward : Outcome program text steps next result) :
      Outcome program text (steps + 1) thread result
  | preferred (moved : thread.move program text = .forks first second)
      (found : Outcome program text steps first (some accepted)) :
      Outcome program text (steps + 1) thread (some accepted)
  | other {thread first second : Thread} (moved : thread.move program text = .forks first second)
      (dead : Outcome program text steps first none) (onward : Outcome program text more second result) :
      Outcome program text (steps + more + 1) thread result

theorem Outcome.unique (outcome : Outcome program text steps thread result)
    (again : Outcome program text taken thread result') : steps = taken ∧ result = result' := by
  induction outcome generalizing taken result' with
  | dies moved => cases again <;> simp_all
  | accepts moved => cases again <;> simp_all
  | goes moved _ ih =>
    cases again with
    | goes moved' onward =>
      rw [moved] at moved'
      cases moved'
      obtain ⟨rfl, rfl⟩ := ih onward
      exact ⟨rfl, rfl⟩
    | _ => simp_all
  | preferred moved _ ih =>
    cases again with
    | preferred moved' found =>
      rw [moved] at moved'
      cases moved'
      obtain ⟨rfl, same⟩ := ih found
      exact ⟨rfl, same⟩
    | other moved' dead _ =>
      rw [moved] at moved'
      cases moved'
      cases (ih dead).2
    | _ => simp_all
  | other moved _ _ ihFirst ihSecond =>
    cases again with
    | preferred moved' found =>
      rw [moved] at moved'
      cases moved'
      cases (ihFirst found).2
    | other moved' dead onward =>
      rw [moved] at moved'
      cases moved'
      obtain ⟨rfl, _⟩ := ihFirst dead
      obtain ⟨rfl, rfl⟩ := ihSecond onward
      exact ⟨rfl, rfl⟩
    | _ => simp_all

/-- Threads at one place of the program and one position of the text. -/
structure Alike (first second : Thread) : Prop where
  address : first.address = second.address
  position : first.position = second.position

/-- Moves that differ at most in what was captured. -/
def Move.Alike : Move → Move → Prop
  | .dies, .dies => True
  | .accepts, .accepts => True
  | .goes next, .goes next' => Regex.Alike next next'
  | .forks first second, .forks first' second' => Regex.Alike first first' ∧ Regex.Alike second second'
  | _, _ => False

/-- What was captured has no influence on where a thread goes. -/
theorem Alike.move (alike : Alike first second) (program : Array Instruction) (text : Array Char) :
    (first.move program text).Alike (second.move program text) := by
  obtain ⟨address, position, trail⟩ := first
  obtain ⟨address', position', trail'⟩ := second
  obtain ⟨rfl, rfl⟩ : address = address' ∧ position = position' := ⟨alike.address, alike.position⟩
  simp only [Thread.move]
  cases program[address]? with
  | none => trivial
  | some instruction =>
    cases instruction with
    | accept => trivial
    | take chars =>
      cases text[position]? with
      | none => trivial
      | some c =>
        by_cases has : chars.has c = true
        · simp only [has, if_true]
          exact ⟨rfl, rfl⟩
        · simp only [has]
          trivial
    | look anchor =>
      by_cases holds : anchor.holds (Thread.behind? text position) text[position]? = true
      · simp only [holds, if_true]
        exact ⟨rfl, rfl⟩
      · simp only [holds]
        trivial
    | opens group => exact ⟨rfl, rfl⟩
    | closes group => exact ⟨rfl, rfl⟩
    | jump target => exact ⟨rfl, rfl⟩
    | fork target past => exact ⟨⟨rfl, rfl⟩, ⟨rfl, rfl⟩⟩

theorem Alike.halts {last : Move} (alike : Alike first second) (halting : last = .dies ∨ last = .accepts)
    (moved : first.move program text = last) : second.move program text = last := by
  have same := alike.move program text
  rw [moved] at same
  rcases halting with rfl | rfl
  · cases onward : second.move program text <;> simp_all [Move.Alike]
  · cases onward : second.move program text <;> simp_all [Move.Alike]

theorem Alike.goes (alike : Alike first second) (moved : first.move program text = .goes next) :
    ∃ next', second.move program text = .goes next' ∧ Alike next next' := by
  have same := alike.move program text
  rw [moved] at same
  cases onward : second.move program text <;> simp_all [Move.Alike]

theorem Alike.forks (alike : Alike first second) (moved : first.move program text = .forks left right) :
    ∃ left' right', second.move program text = .forks left' right' ∧ Alike left left' ∧ Alike right right' := by
  have same := alike.move program text
  rw [moved] at same
  cases onward : second.move program text with
  | forks left' right' =>
    rw [onward] at same
    exact ⟨left', right', rfl, same.1, same.2⟩
  | _ => simp_all [Move.Alike]

/-- Alike threads come to the same end in the same number of steps. -/
theorem Outcome.alike (outcome : Outcome program text steps thread result) (alike : Alike thread thread') :
    ∃ result', Outcome program text steps thread' result' ∧ result'.isSome = result.isSome := by
  induction outcome generalizing thread' with
  | dies moved => exact ⟨none, .dies (alike.halts (.inl rfl) moved), rfl⟩
  | accepts moved => exact ⟨some thread', .accepts (alike.halts (.inr rfl) moved), rfl⟩
  | goes moved _ ih =>
    obtain ⟨next', moved', onward⟩ := alike.goes moved
    obtain ⟨result', outcome, same⟩ := ih onward
    exact ⟨result', .goes moved' outcome, same⟩
  | preferred moved _ ih =>
    obtain ⟨left', right', moved', left, _⟩ := alike.forks moved
    obtain ⟨result', outcome, same⟩ := ih left
    obtain ⟨accepted', rfl⟩ := Option.isSome_iff_exists.mp same
    exact ⟨some accepted', .preferred moved' outcome, rfl⟩
  | other moved _ _ ihFirst ihSecond =>
    obtain ⟨left', right', moved', left, right⟩ := alike.forks moved
    obtain ⟨dead', outcome, nowhere⟩ := ihFirst left
    obtain ⟨result', onward, same⟩ := ihSecond right
    obtain rfl : dead' = none := by simpa using nowhere
    exact ⟨result', .other moved' outcome onward, same⟩

/-- Backtracking from a thread comes to an end with a result. -/
def Leads (program : Array Instruction) (text : Array Char) (thread : Thread) (result : Option Thread) : Prop :=
  ∃ steps, Outcome program text steps thread result

abbrev Dead (program : Array Instruction) (text : Array Char) (thread : Thread) : Prop :=
  Leads program text thread none

theorem Leads.goes (moved : thread.move program text = .goes next) (onward : Leads program text next result) :
    Leads program text thread result := by
  obtain ⟨steps, outcome⟩ := onward
  exact ⟨steps + 1, .goes moved outcome⟩

theorem Leads.preferred (moved : thread.move program text = .forks first second)
    (found : Leads program text first (some accepted)) : Leads program text thread (some accepted) := by
  obtain ⟨steps, outcome⟩ := found
  exact ⟨steps + 1, .preferred moved outcome⟩

theorem Leads.other {second : Thread} (moved : thread.move program text = .forks first second)
    (dead : Dead program text first) (onward : Leads program text second result) :
    Leads program text thread result := by
  obtain ⟨steps, nowhere⟩ := dead
  obtain ⟨more, outcome⟩ := onward
  exact ⟨steps + more + 1, .other moved nowhere outcome⟩

theorem Dead.alike (dead : Dead program text thread) (alike : Alike thread thread') :
    Dead program text thread' := by
  obtain ⟨steps, outcome⟩ := dead
  obtain ⟨result', outcome', same⟩ := outcome.alike alike
  obtain rfl : result' = none := by simpa using same
  exact ⟨steps, outcome'⟩

end TextTemplate.Regex
