import TextTemplate.Filter.PatternCache
import TextTemplate.Proofs.Rows

/-! Replacing calls that share a cache of patterns. In whatever order they take their steps, the
cache holds no more than it may, and each entry is what its request compiles to; so a call
answers as it does alone, after no more than two steps of its own. -/
namespace TextTemplate

open Replace (Job Request)

namespace PatternCache

/-- A cache that is not too large, in which each request has one entry, and that is what its
pattern compiles to under its letters. -/
structure Sound (cache : PatternCache) : Prop where
  bounded : cache.size ≤ 256
  distinct : (cache.entries.map Prod.fst).Nodup
  compiled : ∀ entry ∈ cache.entries, Regex.compile
    { ignoreCase := entry.1.letters.contains 'i', multiLine := entry.1.letters.contains 'm',
      dotAll := entry.1.letters.contains 's' } entry.1.pattern = .ok entry.2

/-- How far a call may have come: it holds what its arguments ask for, and its answer is the one
that it gives alone. -/
inductive Reached (value : Value) (arguments : List Value) : Progress → Prop where
  | looking (read : Job.read arguments = .ok job) : Reached value arguments (.looking job)
  | storing (read : Job.read arguments = .ok job) (compiled : job.request.compile = .ok regex) :
      Reached value arguments (.storing job regex)
  | answered (alone : answer = Replace.filter value arguments) : Reached value arguments (.answered answer)

def Progress.left : Progress → Nat
  | .looking _ => 2
  | .storing _ _ => 1
  | .answered _ => 0

variable {cache : PatternCache} {request : Request} {regex : Regex}
variable {value : Value} {arguments : List Value} {progress : Progress}

theorem sound_empty : Sound .empty :=
  ⟨Nat.zero_le _, .nil, fun _ member => (List.not_mem_nil member).elim⟩

theorem Sound.find? (sound : cache.Sound) (found : cache.find? request = some regex) :
    request.compile = .ok regex := by
  obtain ⟨before, after, split, _⟩ := List.lookup_eq_some_iff.mp found
  exact sound.compiled (request, regex) (split ▸ List.mem_append_right _ List.mem_cons_self)

/-- A full cache keeps only the new entry, and another cache what it has for other requests. -/
theorem Sound.store (sound : cache.Sound) (compiled : request.compile = .ok regex) :
    (cache.store request regex).Sound := by
  unfold PatternCache.store
  split
  · exact ⟨Nat.succ_le_succ (Nat.zero_le _), List.pairwise_singleton _ _, List.forall_mem_singleton.mpr compiled⟩
  · rename_i room
    refine ⟨?_, List.nodup_cons.mpr ⟨fun member => ?_, ?_⟩, List.forall_mem_cons.mpr ⟨compiled, ?_⟩⟩
    · have shorter : (cache.entries.filter (·.1 != request)).length ≤ cache.size := List.length_filter_le _ _
      have larger : cache.size < 256 := Nat.lt_of_not_le room
      exact Nat.le_trans (Nat.succ_le_succ shorter) larger
    · obtain ⟨entry, kept, same⟩ := List.mem_map.mp member
      exact bne_iff_ne.mp (List.mem_filter.mp kept).2 same
    · exact sound.distinct.sublist (List.filter_sublist.map _)
    · exact fun entry kept => sound.compiled entry (List.mem_filter.mp kept).1

theorem reached_ofArguments (value : Value) (arguments : List Value) :
    Reached value arguments (.ofArguments arguments) := by
  unfold Progress.ofArguments
  split
  · rename_i fault
    exact .answered (Replace.filter_of_fault fault).symm
  · rename_i read
    exact .looking read

theorem Reached.step (reached : Reached value arguments progress) (sound : cache.Sound) :
    Reached value arguments (step value cache progress).1 ∧ (step value cache progress).2.Sound := by
  cases reached with
  | @looking job read =>
    have alone := Replace.filter_of_job value read
    rw [PatternCache.step]
    split
    · rename_i found
      rw [sound.find? found] at alone
      exact ⟨.answered alone.symm, sound⟩
    · split
      · rename_i compiled
        exact ⟨.storing read compiled, sound⟩
      · rename_i failed
        rw [failed] at alone
        exact ⟨.answered alone.symm, sound⟩
  | @storing job regex read compiled =>
    have alone := Replace.filter_of_job value read
    rw [compiled] at alone
    exact ⟨.answered alone.symm, sound.store compiled⟩
  | answered alone => exact ⟨.answered alone, sound⟩

theorem Progress.left_le (progress : Progress) : progress.left ≤ 2 := by
  cases progress with
  | looking job => exact Nat.le_refl _
  | storing job regex => exact Nat.le_succ _
  | answered answer => exact Nat.zero_le _

theorem left_step (value : Value) (cache : PatternCache) (progress : Progress) :
    (step value cache progress).1.left ≤ progress.left - 1 := by
  cases progress with
  | looking job =>
    rw [step]
    split
    · exact Nat.zero_le _
    · split
      · exact Nat.le_refl _
      · exact Nat.zero_le _
  | storing job regex => exact Nat.le_refl _
  | answered answer => exact Nat.le_refl _

theorem Sound.replace (sound : cache.Sound) (value : Value) (arguments : List Value) :
    (cache.replace value arguments).1 = Replace.filter value arguments := by
  rw [PatternCache.replace]
  split
  · rename_i fault
    exact (Replace.filter_of_fault fault).symm
  · rename_i job read
    have alone := Replace.filter_of_job value read
    rw [alone, fetch]
    cases found : cache.find? job.request with
    | some regex => rw [sound.find? found]
    | none =>
      cases compiled : job.request.compile with
      | ok regex => rfl
      | error defect => rfl

namespace Sharing

variable {calls : List (Value × List Value)} {sharing : Sharing} {index : Nat}

/-- The cache is sound, and no call has come to anything but what it asked for. -/
structure Serves (calls : List (Value × List Value)) (sharing : Sharing) : Prop where
  cache : sharing.cache.Sound
  reached : List.Forall₂ (fun call here => here.1 = call.1 ∧ Reached call.1 call.2 here.2) calls sharing.calls

theorem serves_start (calls : List (Value × List Value)) : Serves calls (start calls) := by
  refine ⟨sound_empty, ?_⟩
  rw [start, List.forall₂_map_right_iff, List.forall₂_same]
  exact fun call _ => ⟨rfl, reached_ofArguments call.1 call.2⟩

theorem Serves.advance (serves : Serves calls sharing) (index : Nat) : Serves calls (sharing.advance index) := by
  unfold Sharing.advance
  split
  · exact serves
  · rename_i value progress here
    obtain ⟨call, _, rfl, own⟩ := Rows.forall₂_getElem? serves.reached here
    refine ⟨(own.step serves.cache).2, ?_⟩
    rw [← List.modify_id index calls]
    refine Rows.forall₂_modify serves.reached here fun partner ⟨same, reached⟩ => ⟨same, ?_⟩
    change call.1 = partner.1 at same
    rw [same]
    exact (reached.step serves.cache).1

theorem Serves.run (serves : Serves calls sharing) (order : List Nat) : Serves calls (sharing.run order) := by
  induction order generalizing sharing with
  | nil => exact serves
  | cons index order ih => exact ih (serves.advance index)

theorem left_advance (there : sharing.calls[index]? = some (value, progress)) (mover : Nat) :
    ∃ now, (sharing.advance mover).calls[index]? = some (value, now) ∧
      now.left ≤ progress.left - if mover == index then 1 else 0 := by
  have inside := (List.getElem?_eq_some_iff.mp there).1
  by_cases own : mover = index
  · subst own
    rw [beq_self_eq_true, if_pos rfl]
    refine ⟨_, ?_, left_step value sharing.cache progress⟩
    simp only [Sharing.advance, there, List.getElem?_set_self inside]
  · rw [beq_false_of_ne own, if_neg Bool.false_ne_true]
    refine ⟨progress, ?_, Nat.le_refl _⟩
    unfold Sharing.advance
    split
    · exact there
    · rwa [List.getElem?_set_ne own]

theorem left_run (there : sharing.calls[index]? = some (value, progress)) (order : List Nat) :
    ∃ now, (sharing.run order).calls[index]? = some (value, now) ∧
      now.left ≤ progress.left - order.count index := by
  induction order generalizing sharing progress with
  | nil => exact ⟨progress, there, Nat.le_refl _⟩
  | cons mover order ih =>
    obtain ⟨next, here, nearer⟩ := left_advance there mover
    obtain ⟨now, later, bound⟩ := ih here
    refine ⟨now, later, Nat.le_trans bound ?_⟩
    rw [List.count_cons, Nat.add_comm, ← Nat.sub_sub]
    exact Nat.sub_le_sub_right nearer _

/-- The cache is transparent: whatever calls share it and however their steps interleave, it is
sound and has nothing for a pattern that does not compile; a call that answers, and it does after
two steps at the latest, answers as it does with an empty cache. -/
theorem run_transparent (calls : List (Value × List Value)) (order : List Nat) :
    let sharing := (start calls).run order
    sharing.cache.Sound ∧
      (∀ request defect, request.compile = .error defect → ∀ entry ∈ sharing.cache.entries, entry.1 ≠ request) ∧
      (∀ value arguments, (sharing.cache.replace value arguments).1 = (PatternCache.empty.replace value arguments).1 ∧
        (PatternCache.empty.replace value arguments).1 = Replace.filter value arguments) ∧
      ∀ index value arguments, calls[index]? = some (value, arguments) →
        ∃ progress, sharing.calls[index]? = some (value, progress) ∧
          (∀ answer, progress = .answered answer → answer = (PatternCache.empty.replace value arguments).1) ∧
          (2 ≤ order.count index → progress = .answered (PatternCache.empty.replace value arguments).1) := by
  intro sharing
  have serves : Serves calls sharing := (serves_start calls).run order
  refine ⟨serves.cache, ?_, fun value arguments => ⟨?_, sound_empty.replace value arguments⟩, ?_⟩
  · rintro request defect failed entry member rfl
    have compiled : entry.1.compile = .ok entry.2 := serves.cache.compiled entry member
    rw [failed] at compiled
    cases compiled
  · rw [serves.cache.replace, sound_empty.replace]
  · intro index value arguments there
    have began : (start calls).calls[index]? = some (value, .ofArguments arguments) := by
      rw [start, List.getElem?_map, there]
      rfl
    obtain ⟨progress, here, bound⟩ := left_run began order
    obtain ⟨call, own, _, reached⟩ := Rows.forall₂_getElem? serves.reached here
    obtain rfl := Option.some.inj (there.symm.trans own)
    rw [sound_empty.replace]
    refine ⟨progress, here, fun answer answers => ?_, fun enough => ?_⟩
    · subst answers
      cases reached with
      | answered alone => exact alone
    · have few := Progress.left_le (.ofArguments arguments)
      have none : progress.left = 0 := by omega
      cases reached with
      | looking read => cases none
      | storing read compiled => cases none
      | answered alone => rw [alone]

/-- Two calls look for one pattern before either has stored it, and a third has a faulty one. -/
theorem run_transparent_interleaved :
    let sharing := (start [(.str "bcb", [.str "b", .str "d", .str "s"]), (.str "bb", [.str "b", .str "", .str "s"]),
      (.str "x", [.str "(", .str "y"])]).run [0, 1, 2, 1, 0, 2]
    sharing.calls[0]? = some (.str "bcb", .answered (.ok (.str "dcb"))) ∧
      sharing.calls[1]? = some (.str "bb", .answered (.ok (.str "b"))) ∧
      ∀ entry ∈ sharing.cache.entries, entry.1 ≠ ⟨"(", []⟩ := by
  have first : Replace.filter (.str "bcb") [.str "b", .str "d", .str "s"] = .ok (.str "dcb") := by decide +kernel
  have second : Replace.filter (.str "bb") [.str "b", .str "", .str "s"] = .ok (.str "b") := by decide +kernel
  have faulty : ∃ defect, Request.compile ⟨"(", []⟩ = .error defect := ⟨_, rfl⟩
  obtain ⟨_, without, alone, all⟩ := run_transparent
    [(.str "bcb", [.str "b", .str "d", .str "s"]), (.str "bb", [.str "b", .str "", .str "s"]),
      (.str "x", [.str "(", .str "y"])] [0, 1, 2, 1, 0, 2]
  obtain ⟨_, here, _, answers⟩ := all 0 _ _ rfl
  obtain ⟨_, there, _, answers'⟩ := all 1 _ _ rfl
  rw [answers (by decide), (alone _ _).2, first] at here
  rw [answers' (by decide), (alone _ _).2, second] at there
  exact ⟨here, there, without _ _ faulty.choose_spec⟩

end Sharing

end PatternCache

end TextTemplate
