import TextTemplate.Proofs.Regex.Outcome
import TextTemplate.Regex.Matches

/-! The search remembers which places it has entered. Where backtracking comes to an end the
search finds the same thread: a place that is entered again led nowhere before, as what is
still being tried takes more steps. -/
namespace TextTemplate.Regex

variable {program : Array Instruction} {text : Array Char} {origin : Nat}

/-- A thread that can be entered in a search from an origin on. -/
structure Inside (program : Array Instruction) (text : Array Char) (origin : Nat) (thread : Thread) : Prop where
  address : thread.address < program.size
  low : origin ≤ thread.position
  high : thread.position ≤ text.size

theorem Inside.alike (first : Inside program text origin thread) (second : Inside program text origin thread')
    (same : thread.place program origin = thread'.place program origin) : Alike thread thread' := by
  have positive : 0 < program.size := Nat.zero_lt_of_lt first.address
  have row := congrArg (· / program.size) same
  have column := congrArg (· % program.size) same
  simp only [Thread.place, Nat.mul_comm _ program.size, Nat.mul_add_div positive,
    Nat.div_eq_of_lt first.address, Nat.div_eq_of_lt second.address, Nat.add_zero] at row
  simp only [Thread.place, Nat.mul_comm _ program.size, Nat.mul_add_mod,
    Nat.mod_eq_of_lt first.address, Nat.mod_eq_of_lt second.address] at column
  refine ⟨column, ?_⟩
  have low := first.low
  have low' := second.low
  omega

theorem Inside.place_lt (inside : Inside program text origin thread) :
    thread.place program origin < (text.size + 1 - origin) * program.size := by
  have row : thread.position - origin + 1 ≤ text.size + 1 - origin := by
    have low := inside.low
    have high := inside.high
    omega
  have address := inside.address
  calc thread.place program origin
      < (thread.position - origin) * program.size + program.size := by
        unfold Thread.place
        omega
    _ = (thread.position - origin + 1) * program.size := by rw [Nat.succ_mul]
    _ ≤ (text.size + 1 - origin) * program.size := Nat.mul_le_mul_right _ row

/-- Every entered place leads nowhere, or is still being tried in more steps than these. -/
def Settled (program : Array Instruction) (text : Array Char) (origin steps : Nat) (entered : Entered) : Prop :=
  ∀ thread, Inside program text origin thread → thread.place program origin ∈ entered.places →
    ∃ taken result, Outcome program text taken thread result ∧ (result = none ∨ steps < taken)

/-- What has been entered since leads nowhere. -/
structure Grown (program : Array Instruction) (text : Array Char) (origin : Nat) (entered later : Entered) :
    Prop where
  limit : later.limit = entered.limit
  dead : ∀ thread, Inside program text origin thread → thread.place program origin ∈ later.places →
    thread.place program origin ∈ entered.places ∨ Dead program text thread

theorem Grown.refl (entered : Entered) : Grown program text origin entered entered :=
  ⟨rfl, fun _ _ member => .inl member⟩

theorem Grown.trans (first : Grown program text origin entered middle)
    (second : Grown program text origin middle later) : Grown program text origin entered later := by
  refine ⟨second.limit.trans first.limit, ?_⟩
  intro thread inside member
  rcases second.dead thread inside member with member | dead
  · exact first.dead thread inside member
  · exact .inr dead

theorem Settled.grown (settled : Settled program text origin steps entered)
    (grown : Grown program text origin entered later) : Settled program text origin steps later := by
  intro thread inside member
  rcases grown.dead thread inside member with member | ⟨taken, outcome⟩
  · exact settled thread inside member
  · exact ⟨taken, none, outcome, .inl rfl⟩

theorem Settled.mono (settled : Settled program text origin steps entered) (fewer : taken ≤ steps) :
    Settled program text origin taken entered := by
  intro thread inside member
  obtain ⟨own, result, outcome, nowhere | more⟩ := settled thread inside member
  · exact ⟨own, result, outcome, .inl nowhere⟩
  · exact ⟨own, result, outcome, .inr (Nat.lt_of_le_of_lt fewer more)⟩

theorem mem_enter {entered : Entered} {place other : Nat} {small : place < entered.limit} :
    other ∈ (entered.enter place small).places ↔ place = other ∨ other ∈ entered.places := by
  rw [Entered.enter, Std.TreeSet.mem_insert, Nat.compare_eq_eq]

/-- While a thread is tried its own place is entered, and takes more steps than the rest. -/
theorem Settled.enter (settled : Settled program text origin steps entered) {small : _}
    (outcome : Outcome program text steps thread result) (inside : Inside program text origin thread)
    (fewer : taken < steps) :
    Settled program text origin taken (entered.enter (thread.place program origin) small) := by
  intro thread' inside' member
  rcases mem_enter.mp member with same | member
  · obtain ⟨result', outcome', _⟩ := outcome.alike (inside.alike inside' same)
    exact ⟨steps, result', outcome', .inr fewer⟩
  · exact settled.mono (Nat.le_of_lt fewer) thread' inside' member

theorem Grown.enter {small : _} (dead : Dead program text thread) (inside : Inside program text origin thread)
    (grown : Grown program text origin (entered.enter (thread.place program origin) small) later) :
    Grown program text origin entered later := by
  refine ⟨grown.limit, ?_⟩
  intro thread' inside' member
  rcases grown.dead thread' inside' member with member | dead'
  · rcases mem_enter.mp member with same | member
    · exact .inr (dead.alike (inside.alike inside' same))
    · exact .inl member
  · exact .inr dead'

theorem move_outside {thread : Thread} (outside : ¬ thread.address < program.size) :
    thread.move program text = .dies := by
  have absent : program[thread.address]? = none := Array.getElem?_eq_none (Nat.not_lt.mp outside)
  simp [Thread.move, absent]

/-- The state of a search in which a thread is about to be tried. -/
structure Ready (program : Array Instruction) (text : Array Char) (origin steps : Nat) (entered : Entered)
    (thread : Thread) : Prop where
  limit : entered.limit = (text.size + 1 - origin) * program.size
  settled : Settled program text origin steps entered
  low : origin ≤ thread.position
  high : thread.position ≤ text.size

theorem Ready.dead_of_stale (ready : Ready program text origin steps entered thread)
    (outcome : Outcome program text steps thread result)
    (stale : ¬ (entered.isFresh (thread.place program origin) = true ∧ thread.address < program.size)) :
    result = none := by
  by_cases address : thread.address < program.size
  · have inside : Inside program text origin thread := ⟨address, ready.low, ready.high⟩
    have small := inside.place_lt
    rw [← ready.limit] at small
    have member : thread.place program origin ∈ entered.places := by
      simpa [Entered.isFresh, small, address] using stale
    obtain ⟨taken, result', outcome', nowhere | more⟩ := ready.settled thread inside member
    · exact (outcome.unique outcome').2.trans nowhere
    · have same := (outcome.unique outcome').1
      omega
  · cases outcome with
    | dies _ => rfl
    | _ => simp_all [move_outside address]

theorem explore_stale (rest : List Thread)
    (stale : ¬ (entered.isFresh (thread.place program origin) = true ∧ thread.address < program.size)) :
    explore program text origin entered (thread :: rest) = explore program text origin entered rest := by
  rw [explore, dif_neg stale]

/-- What becomes of a thread whose place has been entered. -/
def proceed (program : Array Instruction) (text : Array Char) (origin : Nat) (entered : Entered) (thread : Thread)
    (rest : List Thread) : Option Thread × Entered :=
  match thread.move program text with
  | .dies => explore program text origin entered rest
  | .accepts => (some thread, entered)
  | .goes next => explore program text origin entered (next :: rest)
  | .forks first second => explore program text origin entered (first :: second :: rest)

theorem explore_fresh (rest : List Thread)
    (fresh : entered.isFresh (thread.place program origin) = true ∧ thread.address < program.size) :
    explore program text origin entered (thread :: rest) =
      proceed program text origin
        (entered.enter (thread.place program origin) (Entered.below_of_isFresh fresh.1)) thread rest := by
  rw [explore, dif_pos fresh]
  unfold proceed
  cases thread.move program text <;> rfl

/-- A search ends with the thread that is accepted, or goes on with the others. -/
def Ends (program : Array Instruction) (text : Array Char) (origin : Nat) (entered : Entered)
    (rest : List Thread) (search : Option Thread × Entered) : Option Thread → Prop
  | some accepted => search.1 = some accepted
  | none => ∃ later, search = explore program text origin later rest ∧ Grown program text origin entered later

theorem Ends.grown (ends : Ends program text origin middle rest search result)
    (grown : Grown program text origin entered middle) : Ends program text origin entered rest search result := by
  cases result with
  | some accepted => exact ends
  | none =>
    obtain ⟨later, same, more⟩ := ends
    exact ⟨later, same, grown.trans more⟩

theorem Ready.ends (ready : Ready program text origin steps entered thread)
    (outcome : Outcome program text steps thread result)
    (proceeds : ∀ entered', entered'.limit = entered.limit →
      (∀ taken < steps, Settled program text origin taken entered') →
      Ends program text origin entered' rest (proceed program text origin entered' thread rest) result) :
    Ends program text origin entered rest (explore program text origin entered (thread :: rest)) result := by
  by_cases fresh : entered.isFresh (thread.place program origin) = true ∧ thread.address < program.size
  · have inside : Inside program text origin thread := ⟨fresh.2, ready.low, ready.high⟩
    rw [explore_fresh rest fresh]
    have ends := proceeds (entered.enter (thread.place program origin) (Entered.below_of_isFresh fresh.1)) rfl
      fun taken fewer => ready.settled.enter outcome inside fewer
    cases result with
    | some accepted => exact ends
    | none =>
      obtain ⟨later, same, grown⟩ := ends
      exact ⟨later, same, .enter ⟨steps, outcome⟩ inside grown⟩
  · obtain rfl := ready.dead_of_stale outcome fresh
    exact ⟨entered, explore_stale rest fresh, .refl entered⟩

/-- The search agrees with backtracking on every thread that is tried. -/
theorem ends_of_outcome (outcome : Outcome program text steps thread result)
    (ready : Ready program text origin steps entered thread) (rest : List Thread) :
    Ends program text origin entered rest (explore program text origin entered (thread :: rest)) result := by
  induction outcome generalizing entered rest with
  | dies moved =>
    refine ready.ends (.dies moved) fun entered' _ _ => ?_
    rw [proceed, moved]
    exact ⟨entered', rfl, .refl entered'⟩
  | accepts moved =>
    refine ready.ends (.accepts moved) fun entered' _ _ => ?_
    rw [proceed, moved]
    rfl
  | goes moved onward ih =>
    refine ready.ends (.goes moved onward) fun entered' limit settled => ?_
    have there := Thread.move_goes_position moved ready.high
    rw [proceed, moved]
    exact ih ⟨limit.trans ready.limit, settled _ (Nat.lt_succ_self _), Nat.le_trans ready.low there.1, there.2⟩ rest
  | preferred moved found ih =>
    refine ready.ends (.preferred moved found) fun entered' limit settled => ?_
    have there := Thread.move_forks_position moved
    rw [proceed, moved]
    exact ih ⟨limit.trans ready.limit, settled _ (Nat.lt_succ_self _), there.1 ▸ ready.low, there.1 ▸ ready.high⟩ _
  | @other steps more result thread first second moved dead onward ihFirst ihSecond =>
    refine ready.ends (.other moved dead onward) fun entered' limit settled => ?_
    have there := Thread.move_forks_position moved
    rw [proceed, moved]
    -- the second way is tried with what the first has entered, all of which leads nowhere
    obtain ⟨middle, same, grown⟩ := ihFirst
      ⟨limit.trans ready.limit, settled steps (by omega), there.1 ▸ ready.low, there.1 ▸ ready.high⟩ (second :: rest)
    simp only [same]
    refine (ihSecond ⟨?_, ?_, ?_, ?_⟩ rest).grown grown
    · exact grown.limit.trans (limit.trans ready.limit)
    · exact (settled more (by omega)).grown grown
    · exact there.2 ▸ ready.low
    · exact there.2 ▸ ready.high

def startAt (position : Nat) : Thread := { address := 0, position }

theorem ready_of_grown
    (grown : Grown program text origin (.empty ((text.size + 1 - origin) * program.size)) entered)
    (low : origin ≤ start) (high : start ≤ text.size) (steps : Nat) :
    Ready program text origin steps entered (startAt start) := by
  refine ⟨grown.limit, ?_, low, high⟩
  intro thread inside member
  rcases grown.dead thread inside member with entered | ⟨taken, outcome⟩
  · simp [Entered.empty] at entered
  · exact ⟨taken, none, outcome, .inl rfl⟩

private theorem firstFrom_dead (tries : Nat) {start : Nat}
    (grown : Grown program text origin (.empty ((text.size + 1 - origin) * program.size)) entered)
    (low : origin ≤ start) (high : start + tries ≤ text.size + 1)
    (dead : ∀ position, start ≤ position → position < start + tries → Dead program text (startAt position))
    (more : Nat) :
    ∃ later, firstFrom program text origin (tries + more) start entered =
        firstFrom program text origin more (start + tries) later ∧
      Grown program text origin (.empty ((text.size + 1 - origin) * program.size)) later := by
  induction tries generalizing start entered with
  | zero => exact ⟨entered, by simp, grown⟩
  | succ tries ih =>
    obtain ⟨steps, outcome⟩ := dead start (Nat.le_refl _) (by omega)
    obtain ⟨middle, same, more'⟩ := ends_of_outcome outcome (ready_of_grown grown low (by omega) steps) []
    obtain ⟨later, onward, grown'⟩ := ih (grown.trans more') (Nat.le_succ_of_le low) (by omega)
      (fun position above below => dead position (by omega) (by omega))
    refine ⟨later, ?_, grown'⟩
    rw [explore] at same
    have shape : tries + 1 + more = tries + more + 1 := by omega
    have behind : start + (tries + 1) = start + 1 + tries := by omega
    rw [shape, behind, ← onward, firstFrom, ← startAt, same]

theorem find?_eq_none (dead : ∀ start, origin ≤ start → start ≤ text.size → Dead program text (startAt start)) :
    find? program text origin = none := by
  by_cases inside : origin ≤ text.size + 1
  · obtain ⟨later, same, _⟩ := firstFrom_dead (text.size + 1 - origin) (.refl _) (Nat.le_refl origin)
      (by omega) (fun position above below => dead position above (by omega)) 0
    rw [find?]
    exact same
  · have few : text.size + 1 - origin = 0 := by omega
    simp [find?, few, firstFrom]

/-- The first start that leads to an accepted thread is where the match begins. -/
theorem find?_eq_some (low : origin ≤ start) (high : start ≤ text.size)
    (dead : ∀ position, origin ≤ position → position < start → Dead program text (startAt position))
    (leads : Leads program text (startAt start) (some accepted)) :
    find? program text origin = some ⟨⟨start, accepted.position⟩, accepted.trail⟩ := by
  obtain ⟨steps, outcome⟩ := leads
  have tries : text.size + 1 - origin = start - origin + (text.size - start + 1) := by omega
  obtain ⟨later, same, grown⟩ := firstFrom_dead (start - origin) (.refl _) (Nat.le_refl origin)
    (by omega) (fun position above below => dead position above (by omega)) (text.size - start + 1)
  have ends := ends_of_outcome outcome (ready_of_grown grown low high steps) []
  have begins : origin + (start - origin) = start := by omega
  rw [← tries, begins, firstFrom, ← startAt] at same
  rw [find?, same]
  cases search : explore program text origin later [startAt start] with
  | mk found entered =>
    rw [search] at ends
    cases ends
    rfl

end TextTemplate.Regex
