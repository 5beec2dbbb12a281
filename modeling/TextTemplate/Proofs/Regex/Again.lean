import TextTemplate.Proofs.Regex.Exploration

/-! A match is found again by a search that begins where the match begins. The places that
failed tries leave behind accept nothing and lead only to one another, so a search that may
enter them once more comes to the same thread. -/
namespace TextTemplate.Regex

variable {program : Array Instruction} {text : Array Char} {origin start : Nat}
variable {settled entered other : Entered}

structure Behind (text : Array Char) (low : Nat) (thread : Thread) : Prop where
  low : low ≤ thread.position
  high : thread.position ≤ text.size

inductive Follows (program : Array Instruction) (text : Array Char) (thread : Thread) : Thread → Prop where
  | goes (moved : thread.move program text = .goes next) : Follows program text thread next
  | preferred (moved : thread.move program text = .forks first second) : Follows program text thread first
  | other (moved : thread.move program text = .forks first second) : Follows program text thread second

theorem Follows.behind {low : Nat} (follows : Follows program text thread next) (behind : Behind text low thread) :
    Behind text low next := by
  cases follows with
  | goes moved =>
    have there := Thread.move_goes_position moved behind.high
    exact ⟨Nat.le_trans behind.low there.1, there.2⟩
  | preferred moved =>
    have same := (Thread.move_forks_position moved).1
    exact ⟨same ▸ behind.low, same ▸ behind.high⟩
  | other moved =>
    have same := (Thread.move_forks_position moved).2
    exact ⟨same ▸ behind.low, same ▸ behind.high⟩

theorem Follows.alike (follows : Follows program text thread next) (alike : Alike thread thread') :
    ∃ next', Follows program text thread' next' ∧ Alike next next' := by
  cases follows with
  | goes moved =>
    obtain ⟨next', moved', same⟩ := alike.goes moved
    exact ⟨next', .goes moved', same⟩
  | preferred moved =>
    obtain ⟨left, _, moved', same, _⟩ := alike.forks moved
    exact ⟨left, .preferred moved', same⟩
  | other moved =>
    obtain ⟨_, right, moved', _, same⟩ := alike.forks moved
    exact ⟨right, .other moved', same⟩

theorem Alike.symm (alike : Alike thread thread') : Alike thread' thread :=
  ⟨alike.address.symm, alike.position.symm⟩

theorem Alike.place (alike : Alike thread thread') (program : Array Instruction) (origin : Nat) :
    thread.place program origin = thread'.place program origin := by
  rw [Thread.place, Thread.place, alike.address, alike.position]

/-- A thread at an entered place, or behind the end of the program. -/
def Spent (program : Array Instruction) (origin : Nat) (entered : Entered) (thread : Thread) : Prop :=
  program.size ≤ thread.address ∨ thread.place program origin ∈ entered.places

theorem Spent.alike (spent : Spent program origin entered thread) (alike : Alike thread thread') :
    Spent program origin entered thread' := by
  rcases spent with outside | member
  · exact .inl (alike.address ▸ outside)
  · exact .inr (alike.place program origin ▸ member)

theorem Spent.enter {small : _} (spent : Spent program origin entered thread) :
    Spent program origin (entered.enter place small) thread := by
  rcases spent with outside | member
  · exact .inl outside
  · exact .inr (mem_enter.mpr (.inr member))

/-- Entered places accept nothing and lead to entered places, or to threads that wait. -/
structure Closed (program : Array Instruction) (text : Array Char) (origin : Nat) (entered : Entered)
    (waiting : List Thread) : Prop where
  rejects : ∀ thread, Inside program text origin thread → thread.place program origin ∈ entered.places →
    thread.move program text ≠ .accepts
  onward : ∀ thread next, Inside program text origin thread → thread.place program origin ∈ entered.places →
    Follows program text thread next →
    Spent program origin entered next ∨ ∃ other ∈ waiting, Alike next other

theorem Closed.drop (closed : Closed program text origin entered (thread :: waiting))
    (spent : Spent program origin entered thread) : Closed program text origin entered waiting := by
  refine ⟨closed.rejects, fun thread' next inside member follows => ?_⟩
  rcases closed.onward thread' next inside member follows with entered | ⟨other, listed, alike⟩
  · exact .inl entered
  · rcases List.mem_cons.mp listed with rfl | listed
    · exact .inl (spent.alike alike.symm)
    · exact .inr ⟨other, listed, alike⟩

theorem Closed.enter {small : _} {later : List Thread}
    (closed : Closed program text origin entered (thread :: waiting)) (inside : Inside program text origin thread)
    (rejects : thread.move program text ≠ .accepts)
    (nexts : ∀ next, Follows program text thread next → next ∈ later) (others : ∀ other ∈ waiting, other ∈ later) :
    Closed program text origin (entered.enter (thread.place program origin) small) later := by
  refine ⟨fun thread' inside' member accepts => ?_, fun thread' next inside' member follows => ?_⟩
  · rcases mem_enter.mp member with same | member
    · exact rejects ((inside.alike inside' same).symm.halts (.inr rfl) accepts)
    · exact closed.rejects thread' inside' member accepts
  · rcases mem_enter.mp member with same | member
    · obtain ⟨next', own, alike⟩ := follows.alike (inside.alike inside' same).symm
      exact .inr ⟨next', nexts next' own, alike⟩
    · rcases closed.onward thread' next inside' member follows with spent | ⟨other, listed, alike⟩
      · exact .inl spent.enter
      · rcases List.mem_cons.mp listed with rfl | listed
        · exact .inl (.inr (mem_enter.mpr (.inl (alike.place program origin).symm)))
        · exact .inr ⟨other, others other listed, alike⟩

theorem isFresh_iff {place : Nat} (small : place < entered.limit) :
    entered.isFresh place = true ↔ place ∉ entered.places := by
  simp [Entered.isFresh, small, ← Std.TreeSet.contains_iff_mem]

theorem spent_of_stale (limit : entered.limit = (text.size + 1 - origin) * program.size)
    (behind : Behind text origin thread)
    (stale : ¬ (entered.isFresh (thread.place program origin) = true ∧ thread.address < program.size)) :
    Spent program origin entered thread := by
  by_cases address : thread.address < program.size
  · have inside : Inside program text origin thread := ⟨address, behind.low, behind.high⟩
    have small := inside.place_lt
    rw [← limit] at small
    exact .inr (by simpa [Entered.isFresh, small, address] using stale)
  · exact .inl (Nat.le_of_not_lt address)

/-- What a search that accepts nothing has entered is closed. -/
theorem explore_closed {later : Entered} {threads : List Thread}
    (search : explore program text origin entered threads = (none, later))
    (closed : Closed program text origin entered threads)
    (limit : entered.limit = (text.size + 1 - origin) * program.size)
    (behind : ∀ thread ∈ threads, Behind text origin thread) :
    Closed program text origin later [] ∧ later.limit = (text.size + 1 - origin) * program.size := by
  fun_induction explore program text origin entered threads with
  | case1 entered =>
    cases search
    exact ⟨closed, limit⟩
  | case2 entered thread rest fresh _ _ dies ih =>
    obtain ⟨here, others⟩ := List.forall_mem_cons.mp behind
    refine ih search (closed.enter ⟨fresh.2, here.low, here.high⟩ (by simp [dies]) ?_ ?_) limit others
    · intro next follows
      cases follows <;> simp_all
    · exact fun _ member => member
  | case3 => cases search
  | case4 entered thread rest fresh _ _ next goes ih =>
    obtain ⟨here, others⟩ := List.forall_mem_cons.mp behind
    refine ih search (closed.enter ⟨fresh.2, here.low, here.high⟩ (by simp [goes]) ?_ ?_) limit
      (List.forall_mem_cons.mpr ⟨(Follows.goes goes).behind here, others⟩)
    · intro next' follows
      cases follows <;> simp_all
    · exact fun _ member => List.mem_cons_of_mem _ member
  | case5 entered thread rest fresh _ _ preferred second forks ih =>
    obtain ⟨here, others⟩ := List.forall_mem_cons.mp behind
    have second' := (Follows.other forks).behind here
    refine ih search (closed.enter ⟨fresh.2, here.low, here.high⟩ (by simp [forks]) ?_ ?_) limit
      (List.forall_mem_cons.mpr ⟨(Follows.preferred forks).behind here, List.forall_mem_cons.mpr ⟨second', others⟩⟩)
    · intro next follows
      cases follows <;> simp_all
    · exact fun _ member => List.mem_cons_of_mem _ (List.mem_cons_of_mem _ member)
  | case6 entered thread rest stale ih =>
    obtain ⟨here, others⟩ := List.forall_mem_cons.mp behind
    exact ih search (closed.drop (spent_of_stale limit here stale)) limit others

theorem Spent.member (spent : Spent program origin settled thread) (inside : Inside program text origin thread) :
    thread.place program origin ∈ settled.places :=
  spent.resolve_left (Nat.not_le.mpr inside.address)

theorem Spent.rejects (closed : Closed program text origin settled [])
    (spent : Spent program origin settled thread) (inside : Inside program text origin thread) :
    thread.move program text ≠ .accepts :=
  closed.rejects thread inside (spent.member inside)

theorem Spent.follows (closed : Closed program text origin settled [])
    (spent : Spent program origin settled thread) (inside : Inside program text origin thread)
    (follows : Follows program text thread next) : Spent program origin settled next :=
  (closed.onward thread next inside (spent.member inside) follows).resolve_right (by simp)

/-- A list of threads and the same list without some of the spent ones. -/
inductive Thinned (spent : Thread → Prop) : List Thread → List Thread → Prop where
  | nil : Thinned spent [] []
  | drop (gone : spent thread) (rest : Thinned spent threads kept) : Thinned spent (thread :: threads) kept
  | keep (rest : Thinned spent threads kept) : Thinned spent (thread :: threads) (thread :: kept)

/-- Two searches, one of which began earlier and settled some places: but for these places
they have entered the same. -/
structure Mirrors (program : Array Instruction) (text : Array Char) (origin start : Nat)
    (settled entered other : Entered) : Prop where
  limit : entered.limit = (text.size + 1 - origin) * program.size
  limit' : other.limit = (text.size + 1 - start) * program.size
  still : ∀ place ∈ settled.places, place ∈ entered.places
  same : ∀ thread, Inside program text start thread → ¬ Spent program origin settled thread →
    (thread.place program origin ∈ entered.places ↔ thread.place program start ∈ other.places)

theorem Inside.earlier (inside : Inside program text start thread) (before : origin ≤ start) :
    Inside program text origin thread :=
  ⟨inside.address, Nat.le_trans before inside.low, inside.high⟩

theorem Mirrors.fresh_iff (mirrors : Mirrors program text origin start settled entered other)
    (before : origin ≤ start) (inside : Inside program text start thread)
    (unspent : ¬ Spent program origin settled thread) :
    entered.isFresh (thread.place program origin) = true ↔ other.isFresh (thread.place program start) = true := by
  have small := (inside.earlier before).place_lt
  have small' := inside.place_lt
  rw [← mirrors.limit] at small
  rw [← mirrors.limit'] at small'
  rw [isFresh_iff small, isFresh_iff small', mirrors.same thread inside unspent]

theorem Mirrors.fresh (mirrors : Mirrors program text origin start settled entered other)
    (before : origin ≤ start) (inside : Inside program text start thread)
    (unspent : ¬ Spent program origin settled thread)
    (fresh : other.isFresh (thread.place program start) = true) :
    entered.isFresh (thread.place program origin) = true ∧ thread.address < program.size :=
  ⟨(mirrors.fresh_iff before inside unspent).mpr fresh, inside.address⟩

theorem Mirrors.stale (mirrors : Mirrors program text origin start settled entered other)
    (before : origin ≤ start) (behind : Behind text start thread)
    (unspent : ¬ Spent program origin settled thread)
    (stale : ¬ (other.isFresh (thread.place program start) = true ∧ thread.address < program.size)) :
    ¬ (entered.isFresh (thread.place program origin) = true ∧ thread.address < program.size) := by
  rintro ⟨fresh, address⟩
  exact stale ⟨(mirrors.fresh_iff before ⟨address, behind.low, behind.high⟩ unspent).mp fresh, address⟩

theorem Mirrors.enter_spent {small : _} (mirrors : Mirrors program text origin start settled entered other)
    (inside : Inside program text start thread) (spent : Spent program origin settled thread) :
    Mirrors program text origin start settled entered (other.enter (thread.place program start) small) := by
  refine ⟨mirrors.limit, mirrors.limit', mirrors.still, fun thread' inside' unspent => ?_⟩
  rw [mem_enter, mirrors.same thread' inside' unspent]
  refine ⟨.inr, fun member => member.resolve_left fun same => ?_⟩
  exact unspent (spent.alike (inside.alike inside' same))

theorem Mirrors.enter_both {small small' : _} (mirrors : Mirrors program text origin start settled entered other)
    (before : origin ≤ start) (inside : Inside program text start thread) :
    Mirrors program text origin start settled (entered.enter (thread.place program origin) small)
      (other.enter (thread.place program start) small') := by
  refine ⟨mirrors.limit, mirrors.limit', fun place member => mem_enter.mpr (.inr (mirrors.still place member)),
    fun thread' inside' unspent => ?_⟩
  have there : thread.place program origin = thread'.place program origin ↔
      thread.place program start = thread'.place program start :=
    ⟨fun same => ((inside.earlier before).alike (inside'.earlier before) same).place program start,
      fun same => (inside.alike inside' same).place program origin⟩
  rw [mem_enter, mem_enter, there, mirrors.same thread' inside' unspent]

theorem Mirrors.not_fresh (mirrors : Mirrors program text origin start settled entered other)
    (spent : Spent program origin settled thread) :
    ¬ (entered.isFresh (thread.place program origin) = true ∧ thread.address < program.size) := by
  rintro ⟨fresh, address⟩
  have member := spent.resolve_left (Nat.not_le.mpr address)
  exact (isFresh_iff (Entered.below_of_isFresh fresh)).mp fresh (mirrors.still _ member)

theorem Mirrors.skip (mirrors : Mirrors program text origin start settled entered other)
    (spent : Spent program origin settled thread)
    (thinned : Thinned (Spent program origin settled) (thread :: threads) kept) :
    ∃ kept', Thinned (Spent program origin settled) threads kept' ∧
      explore program text origin entered kept = explore program text origin entered kept' := by
  cases thinned with
  | drop _ rest => exact ⟨_, rest, rfl⟩
  | keep rest => exact ⟨_, rest, explore_stale _ (mirrors.not_fresh spent)⟩

theorem Thinned.head {spent : Thread → Prop} (thinned : Thinned spent (thread :: threads) kept)
    (unspent : ¬ spent thread) : ∃ kept', kept = thread :: kept' ∧ Thinned spent threads kept' := by
  cases thinned with
  | drop gone _ => exact absurd gone unspent
  | keep rest => exact ⟨_, rfl, rest⟩

/-- Two searches that mirror each other accept the same thread. -/
theorem Mirrors.explore_eq {threads kept : List Thread} {result : Option Thread} {later : Entered}
    (search : explore program text start other threads = (result, later))
    (closed : Closed program text origin settled []) (before : origin ≤ start)
    (mirrors : Mirrors program text origin start settled entered other)
    (thinned : Thinned (Spent program origin settled) threads kept)
    (behind : ∀ thread ∈ threads, Behind text start thread) :
    (explore program text origin entered kept).1 = result := by
  fun_induction explore program text start other threads generalizing entered kept with
  | case1 other =>
    cases search
    cases thinned
    rw [explore]
  | case2 other thread rest fresh _ _ dies =>
    rename_i ih
    obtain ⟨here, others⟩ := List.forall_mem_cons.mp behind
    have inside : Inside program text start thread := ⟨fresh.2, here.low, here.high⟩
    -- one search runs through a spent thread to its dead end, the other passes it over
    by_cases spent : Spent program origin settled thread
    · obtain ⟨kept', thinned', same⟩ := mirrors.skip spent thinned
      rw [same]
      exact ih search (mirrors.enter_spent inside spent) thinned' others
    · obtain ⟨kept', rfl, thinned'⟩ := thinned.head spent
      rw [explore_fresh _ (mirrors.fresh before inside spent fresh.1), proceed, dies]
      exact ih search (mirrors.enter_both before inside) thinned' others
  | case3 other thread rest fresh _ _ =>
    rename_i accepts
    obtain ⟨here, _⟩ := List.forall_mem_cons.mp behind
    have inside : Inside program text start thread := ⟨fresh.2, here.low, here.high⟩
    have unspent : ¬ Spent program origin settled thread := fun spent =>
      spent.rejects closed (inside.earlier before) accepts
    obtain ⟨kept', rfl, _⟩ := thinned.head unspent
    rw [explore_fresh _ (mirrors.fresh before inside unspent fresh.1), proceed, accepts]
    exact congrArg Prod.fst search
  | case4 other thread rest fresh _ _ next goes =>
    rename_i ih
    obtain ⟨here, others⟩ := List.forall_mem_cons.mp behind
    have inside : Inside program text start thread := ⟨fresh.2, here.low, here.high⟩
    have others' := List.forall_mem_cons.mpr ⟨(Follows.goes goes).behind here, others⟩
    by_cases spent : Spent program origin settled thread
    · obtain ⟨kept', thinned', same⟩ := mirrors.skip spent thinned
      have gone := spent.follows closed (inside.earlier before) (.goes goes)
      rw [same]
      exact ih search (mirrors.enter_spent inside spent) (.drop gone thinned') others'
    · obtain ⟨kept', rfl, thinned'⟩ := thinned.head spent
      rw [explore_fresh _ (mirrors.fresh before inside spent fresh.1), proceed, goes]
      exact ih search (mirrors.enter_both before inside) (.keep thinned') others'
  | case5 other thread rest fresh _ _ preferred second forks =>
    rename_i ih
    obtain ⟨here, others⟩ := List.forall_mem_cons.mp behind
    have inside : Inside program text start thread := ⟨fresh.2, here.low, here.high⟩
    have others' := List.forall_mem_cons.mpr ⟨(Follows.preferred forks).behind here,
      List.forall_mem_cons.mpr ⟨(Follows.other forks).behind here, others⟩⟩
    by_cases spent : Spent program origin settled thread
    · obtain ⟨kept', thinned', same⟩ := mirrors.skip spent thinned
      have gone := spent.follows closed (inside.earlier before) (.preferred forks)
      have gone' := spent.follows closed (inside.earlier before) (.other forks)
      rw [same]
      exact ih search (mirrors.enter_spent inside spent) (.drop gone (.drop gone' thinned')) others'
    · obtain ⟨kept', rfl, thinned'⟩ := thinned.head spent
      rw [explore_fresh _ (mirrors.fresh before inside spent fresh.1), proceed, forks]
      exact ih search (mirrors.enter_both before inside) (.keep (.keep thinned')) others'
  | case6 other thread rest stale =>
    rename_i ih
    obtain ⟨here, others⟩ := List.forall_mem_cons.mp behind
    by_cases spent : Spent program origin settled thread
    · obtain ⟨kept', thinned', same⟩ := mirrors.skip spent thinned
      rw [same]
      exact ih search mirrors thinned' others
    · obtain ⟨kept', rfl, thinned'⟩ := thinned.head spent
      rw [explore_stale _ (mirrors.stale before here spent stale)]
      exact ih search mirrors thinned' others

theorem behind_startAt (low : origin ≤ start) (high : start ≤ text.size) :
    ∀ thread ∈ [startAt start], Behind text origin thread := by
  intro thread member
  obtain rfl := List.mem_singleton.mp member
  exact ⟨low, high⟩

/-- What the tries before a match leave behind is closed, and its own try finds it. -/
theorem firstFrom_closed {tries first : Nat} {entered : Entered} {found : Match}
    (success : firstFrom program text origin tries first entered = some found)
    (closed : Closed program text origin entered [])
    (limit : entered.limit = (text.size + 1 - origin) * program.size) (behind : origin ≤ first)
    (enough : first + tries ≤ text.size + 1) :
    ∃ settled thread, Closed program text origin settled [] ∧
      settled.limit = (text.size + 1 - origin) * program.size ∧
      (explore program text origin settled [startAt found.span.start]).1 = some thread ∧
      found = ⟨⟨found.span.start, thread.position⟩, thread.trail⟩ := by
  induction tries generalizing first entered with
  | zero => cases success
  | succ tries ih =>
    simp only [firstFrom] at success
    split at success
    · rename_i thread _ explored
      cases success
      exact ⟨entered, thread, closed, limit, congrArg Prod.fst explored, rfl⟩
    · rename_i later explored
      have waiting : Closed program text origin entered [startAt first] :=
        ⟨closed.rejects, fun thread next inside member follows =>
          .inl ((closed.onward thread next inside member follows).resolve_right (by simp))⟩
      obtain ⟨closed', limit'⟩ := explore_closed explored waiting limit
        (behind_startAt behind (by omega))
      exact ih success closed' limit' (by omega) (by omega)

theorem closed_empty (limit : Nat) : Closed program text origin (.empty limit) [] := by
  refine ⟨fun _ _ member => ?_, fun _ _ _ member => ?_⟩
  · simp [Entered.empty] at member
  · simp [Entered.empty] at member

/-- A search from the start of a match finds the match. -/
theorem find?_again {found : Match} (success : find? program text origin = some found) :
    find? program text found.span.start = some found := by
  have bounds := find?_span success
  have enough : origin + (text.size + 1 - origin) ≤ text.size + 1 := by omega
  obtain ⟨settled, thread, closed, limit, explored, same⟩ :=
    firstFrom_closed success (closed_empty _) rfl (Nat.le_refl _) enough
  have mirrors : Mirrors program text origin found.span.start settled settled
      (.empty ((text.size + 1 - found.span.start) * program.size)) := by
    refine ⟨limit, rfl, fun _ member => member, fun thread _ unspent => ⟨fun member => ?_, fun member => ?_⟩⟩
    · exact absurd (.inr member) unspent
    · simp [Entered.empty] at member
  have tries : text.size + 1 - found.span.start = text.size - found.span.start + 1 := by omega
  rw [find?, tries, firstFrom, ← tries, ← startAt]
  cases search : explore program text found.span.start
      (.empty ((text.size + 1 - found.span.start) * program.size)) [startAt found.span.start] with
  | mk result later =>
    have first := mirrors.explore_eq search closed bounds.1 (.keep .nil)
      (behind_startAt (Nat.le_refl _) (by omega))
    rw [explored] at first
    subst first
    rw [same]

end TextTemplate.Regex
