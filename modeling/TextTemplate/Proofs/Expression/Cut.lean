import TextTemplate.Expression.Pipeline

/-! A pipeline is cut at exactly the pipes that the quoting automaton meets outside of
literals. The joints are described by what stands before them, without the splitter. -/
namespace TextTemplate.Expression.Pipeline

theorem cuts_iff {state : Quoting} {c : Char} : state.cuts c = true ↔ state = .outside ∧ c = '|' := by
  simp [Quoting.cuts]

/-- Segments with a pipe in front of each but the first. -/
def joined (first : List Char) (later : List (List Char)) : List Char :=
  first ++ later.flatMap ('|' :: ·)

theorem joined_cons (first segment : List Char) (later : List (List Char)) :
    joined first (segment :: later) = first ++ '|' :: joined segment later := by
  simp [joined]

/-- Whether a text is what stands before one of the pipes between segments. -/
def Joint (first : List Char) (later : List (List Char)) (before : List Char) : Prop :=
  ∃ count < later.length, before = joined first (later.take count)

theorem joint_cons {first segment before : List Char} {later : List (List Char)} :
    Joint first (segment :: later) before ↔
      before = first ∨ ∃ rest, before = first ++ '|' :: rest ∧ Joint segment later rest := by
  constructor
  · rintro ⟨count, few, same⟩
    cases count with
    | zero => exact .inl (by simpa [joined] using same)
    | succ count =>
      rw [List.take_succ_cons, joined_cons] at same
      exact .inr ⟨_, same, count, by simpa using few, rfl⟩
  · rintro (rfl | ⟨rest, rfl, count, few, rfl⟩)
    · exact ⟨0, by simp, by simp [joined]⟩
    · refine ⟨count + 1, by simpa using few, ?_⟩
      rw [List.take_succ_cons, joined_cons]

theorem joint_extend {c : Char} {first before : List Char} {later : List (List Char)} :
    Joint (c :: first) later (c :: before) ↔ Joint first later before := by
  simp [Joint, joined]

theorem joint_nonempty {c : Char} {first : List Char} {later : List (List Char)} :
    ¬ Joint (c :: first) later [] := by
  simp [Joint, joined]

/-- The segments give the content back, and the pipes between them are those before which
the automaton stands outside of literals. -/
structure IsCut (state : Quoting) (content first : List Char) (later : List (List Char)) : Prop where
  joins : content = joined first later
  cuts : ∀ before after, content = before ++ '|' :: after →
    (state.run before = .outside ↔ Joint first later before)

/-- No pipe of a text stands outside of literals. -/
def Uncut (state : Quoting) (text : List Char) : Prop :=
  ∀ before after, text = before ++ '|' :: after → state.run before ≠ .outside

theorem Uncut.tail (uncut : Uncut state (c :: text)) : Uncut (state.step c) text := by
  intro before after same outside
  exact uncut (c :: before) after (by rw [same]; rfl) outside

theorem Uncut.head (uncut : Uncut state (c :: text)) : state.cuts c = false := by
  apply Bool.eq_false_iff.mpr
  intro cut
  obtain ⟨outside, rfl⟩ := cuts_iff.mp cut
  exact uncut [] text rfl outside

theorem splitFrom_uncut (uncut : Uncut state text) : splitFrom state text = (text, []) := by
  induction text generalizing state with
  | nil => rfl
  | cons c text ih => simp [splitFrom, uncut.head, ih uncut.tail]

/-- An uncut text that leaves the automaton outside is the segment before the next pipe. -/
theorem splitFrom_segment (uncut : Uncut state text) (leaves : state.run text = .outside)
    (rest : List Char) :
    splitFrom state (text ++ '|' :: rest) =
      (text, (splitFrom .outside rest).1 :: (splitFrom .outside rest).2) := by
  induction text generalizing state with
  | nil =>
    obtain rfl : state = .outside := leaves
    rfl
  | cons c text ih =>
    rw [List.cons_append]
    simp [splitFrom, uncut.head, ih uncut.tail leaves]

theorem splitFrom_isCut (state : Quoting) (content : List Char) :
    IsCut state content (splitFrom state content).1 (splitFrom state content).2 := by
  fun_induction splitFrom state content with
  | case1 =>
    refine ⟨rfl, ?_⟩
    intro before after same
    simp at same
  | case2 state c rest cut first later split ih =>
    obtain ⟨rfl, rfl⟩ := cuts_iff.mp cut
    rw [split] at ih
    refine ⟨by rw [ih.joins, joined_cons]; rfl, ?_⟩
    intro before after same
    rw [joint_cons]
    cases before with
    | nil => exact ⟨fun _ => .inl rfl, fun _ => rfl⟩
    | cons d before =>
      obtain ⟨rfl, behind⟩ := List.cons.inj same
      have within := ih.cuts before after behind
      simpa [Quoting.run, Quoting.step, isQuote] using within
  | case3 state c rest uncut first later split ih =>
    rw [split] at ih
    refine ⟨by rw [ih.joins]; rfl, ?_⟩
    intro before after same
    cases before with
    | nil =>
      obtain ⟨rfl, rfl⟩ := List.cons.inj same
      have inside : state ≠ .outside := by
        rintro rfl
        exact uncut rfl
      exact ⟨fun outside => absurd outside inside, fun joint => absurd joint joint_nonempty⟩
    | cons d before =>
      obtain ⟨rfl, behind⟩ := List.cons.inj same
      rw [joint_extend]
      exact ih.cuts before after behind

theorem IsCut.uncut (cut : IsCut state content first later) : Uncut state first := by
  intro before after same outside
  have longer : content = before ++ '|' :: (after ++ later.flatMap ('|' :: ·)) := by
    rw [cut.joins, joined, same]
    simp
  obtain ⟨count, _, joint⟩ := (cut.cuts before _ longer).mp outside
  have size := congrArg List.length joint
  rw [same] at size
  simp [joined] at size

theorem IsCut.next {segment : List Char} (cut : IsCut state content first (segment :: later)) :
    state.run first = .outside ∧ IsCut .outside (joined segment later) segment later := by
  have shape : content = first ++ '|' :: joined segment later := by rw [cut.joins, joined_cons]
  have leaves : state.run first = .outside := (cut.cuts first _ shape).mpr (joint_cons.mpr (.inl rfl))
  refine ⟨leaves, rfl, ?_⟩
  intro before after same
  have run : state.run (first ++ '|' :: before) = Quoting.run .outside before := by
    rw [Quoting.run_append, leaves]
    rfl
  have whole := cut.cuts (first ++ '|' :: before) after (by rw [shape, same]; simp)
  rw [run, joint_cons] at whole
  simpa using whole

theorem IsCut.splitFrom_eq (cut : IsCut state content first later) :
    splitFrom state content = (first, later) := by
  induction later generalizing state content first with
  | nil =>
    obtain rfl : content = first := by simpa [joined] using cut.joins
    exact splitFrom_uncut cut.uncut
  | cons segment later ih =>
    obtain ⟨leaves, rest⟩ := cut.next
    rw [cut.joins, joined_cons, splitFrom_segment cut.uncut leaves, ih rest]

theorem splitFrom_append (leaves : state.run text = .outside) (rest : List Char) :
    splitFrom state (text ++ '|' :: rest) =
      ((splitFrom state text).1,
        (splitFrom state text).2 ++ (splitFrom .outside rest).1 :: (splitFrom .outside rest).2) := by
  induction text generalizing state with
  | nil =>
    obtain rfl : state = .outside := leaves
    rfl
  | cons c text ih =>
    rw [List.cons_append]
    by_cases cut : state.cuts c = true
    · obtain ⟨rfl, rfl⟩ := cuts_iff.mp cut
      have onward : Quoting.run .outside text = .outside := leaves
      simp [splitFrom, cut, ih onward]
    · simp [splitFrom, cut, ih leaves]

/-- Splitting gives the one cut that there is. -/
theorem split_eq_iff {content first : List Char} {later : List (List Char)} :
    split content = (first, later) ↔ IsCut .outside content first later := by
  constructor
  · intro same
    have cut := splitFrom_isCut .outside content
    rw [← split, same] at cut
    exact cut
  · exact IsCut.splitFrom_eq

end TextTemplate.Expression.Pipeline
