import TextTemplate.Regex.Matches

/-! Where the groups of a match lie. What a thread has captured stays between the position
at which its try began and the one at which it stands, whatever the program; so every group
of a match lies inside the match. -/
namespace TextTemplate.Regex

variable {program : Array Instruction} {text : Array Char}

/-- What was captured lies between two positions. -/
structure Trail.Within (low high : Nat) (trail : Trail) : Prop where
  opened : ∀ entry ∈ trail.opened, low ≤ entry.2 ∧ entry.2 ≤ high
  closed : ∀ entry ∈ trail.closed, low ≤ entry.2.start ∧ entry.2.start ≤ entry.2.stop ∧ entry.2.stop ≤ high

theorem Trail.within_empty (low high : Nat) : Trail.Within low high {} :=
  ⟨fun _ member => (List.not_mem_nil member).elim, fun _ member => (List.not_mem_nil member).elim⟩

theorem Trail.Within.mono {trail : Trail} (within : trail.Within low high) (more : high ≤ higher) :
    trail.Within low higher := by
  refine ⟨fun entry member => ?_, fun entry member => ?_⟩
  · have bounds := within.opened entry member
    exact ⟨bounds.1, Nat.le_trans bounds.2 more⟩
  · have bounds := within.closed entry member
    exact ⟨bounds.1, bounds.2.1, Nat.le_trans bounds.2.2 more⟩

theorem Trail.Within.openGroup {trail : Trail} (within : trail.Within low high) (begun : low ≤ high) (group : Nat) :
    (trail.openGroup group high).Within low high := by
  refine ⟨fun entry member => ?_, within.closed⟩
  rcases List.mem_cons.mp member with rfl | member
  · exact ⟨begun, Nat.le_refl _⟩
  · exact within.opened entry member

theorem Trail.Within.closeGroup {trail : Trail} (within : trail.Within low high) (group : Nat) :
    (trail.closeGroup group high).Within low high := by
  unfold Trail.closeGroup
  split
  · rename_i start present
    obtain ⟨_, _, split, _⟩ := List.lookup_eq_some_iff.mp present
    have bounds := within.opened (group, start) (by rw [split]; simp)
    refine ⟨within.opened, fun entry member => ?_⟩
    rcases List.mem_cons.mp member with rfl | member
    · exact ⟨bounds.1, bounds.2, Nat.le_refl _⟩
    · exact within.closed entry member
  · exact within

theorem Trail.Within.span? {trail : Trail} (within : trail.Within low high) {group : Nat} {span : Span}
    (present : trail.span? group = some span) : low ≤ span.start ∧ span.start ≤ span.stop ∧ span.stop ≤ high := by
  obtain ⟨_, _, split, _⟩ := List.lookup_eq_some_iff.mp present
  exact within.closed (group, span) (by rw [split]; simp)

/-- A thread that began at a position and has captured only what lies behind it. -/
structure Thread.Since (low : Nat) (thread : Thread) : Prop where
  begun : low ≤ thread.position
  within : thread.trail.Within low thread.position

theorem Thread.Since.goes {thread next : Thread} (since : thread.Since low)
    (moved : thread.move program text = .goes next) : next.Since low := by
  simp only [Thread.move] at moved
  split at moved
  · cases moved
  · cases moved
  · split at moved
    · split at moved
      · cases moved
        exact ⟨Nat.le_succ_of_le since.begun, since.within.mono (Nat.le_succ _)⟩
      · cases moved
    · cases moved
  · split at moved
    · cases moved
      exact ⟨since.begun, since.within⟩
    · cases moved
  · cases moved
    exact ⟨since.begun, since.within.openGroup since.begun _⟩
  · cases moved
    exact ⟨since.begun, since.within.closeGroup _⟩
  · cases moved
  · cases moved
    exact ⟨since.begun, since.within⟩

theorem Thread.Since.forks {thread preferred other : Thread} (since : thread.Since low)
    (moved : thread.move program text = .forks preferred other) : preferred.Since low ∧ other.Since low := by
  simp only [Thread.move] at moved
  split at moved
  · cases moved
  · cases moved
  · split at moved
    · split at moved
      · cases moved
      · cases moved
    · cases moved
  · split at moved
    · cases moved
    · cases moved
  · cases moved
  · cases moved
  · cases moved
    exact ⟨⟨since.begun, since.within⟩, ⟨since.begun, since.within⟩⟩
  · cases moved

theorem explore_since {origin low : Nat} {entered entered' : Entered} {threads : List Thread} {accepted : Thread}
    (found : explore program text origin entered threads = (some accepted, entered'))
    (all : ∀ thread ∈ threads, thread.Since low) : accepted.Since low :=
  explore_keeps (fun _ _ since => since.goes) (fun _ _ _ since => since.forks) found all

/-- A stretch of a text of some length, with groups that lie inside it. -/
structure Match.Proper (size : Nat) (found : Match) : Prop where
  ordered : found.span.start ≤ found.span.stop
  inside : found.span.stop ≤ size
  groups : found.trail.Within found.span.start found.span.stop

theorem Match.Proper.group? {size group : Nat} {found : Match} {span : Span} (proper : found.Proper size)
    (present : found.group? group = some span) :
    found.span.start ≤ span.start ∧ span.start ≤ span.stop ∧ span.stop ≤ found.span.stop := by
  unfold Match.group? at present
  split at present
  · cases present
    exact ⟨Nat.le_refl _, proper.ordered, Nat.le_refl _⟩
  · exact proper.groups.span? present

theorem find?_proper {origin : Nat} {found : Match} (success : find? program text origin = some found) :
    origin ≤ found.span.start ∧ found.Proper text.size := by
  obtain ⟨low, ordered, inside⟩ := find?_span success
  obtain ⟨thread, _, _, explored, same, _, _⟩ := firstFrom_explored success
  have since : thread.Since found.span.start := explore_since explored fun candidate member => by
    obtain rfl := List.mem_singleton.mp member
    exact ⟨Nat.le_refl _, Trail.within_empty _ _⟩
  refine ⟨low, ordered, inside, ?_⟩
  rw [same]
  exact since.within

end TextTemplate.Regex
