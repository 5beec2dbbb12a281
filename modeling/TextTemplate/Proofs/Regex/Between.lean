import TextTemplate.Proofs.Regex.Laid

/-! The pattern of an opening text, a group of one or more characters of a class, and a
closing text. A match begins at the first place where all three stand, and its group is the
longest body that the closing text follows. -/
namespace TextTemplate.Regex

def Pattern.char (c : Char) : Pattern := .set (.single c)

def between (opening : List Char) (chars : CharClass) (closing : List Char) : Pattern :=
  .seqs (opening.map .char ++ .group 1 (.loop true 1 none (.set chars)) :: closing.map .char)

/-- A text begins with the opening text, a body of the class and the closing text. -/
def Enclosed (opening : List Char) (chars : CharClass) (closing body text : List Char) : Prop :=
  body ≠ [] ∧ (∀ c ∈ body, chars.has c = true) ∧ ∃ rest, text = opening ++ body ++ closing ++ rest

theorem code_seqs_cons (first : Pattern) (rest : List Pattern) (base : Nat) :
    (Pattern.seqs (first :: rest)).code base =
      first.code base ++ (Pattern.seqs rest).code (base + first.length) := by
  cases rest with
  | nil => simp [Pattern.seqs, Pattern.code]
  | cons second rest =>
    rw [Pattern.seqs, Pattern.code]
    simp

theorem code_chars (text : List Char) (rest : List Pattern) (base : Nat) :
    (Pattern.seqs (text.map .char ++ rest)).code base =
      takes text ++ (Pattern.seqs rest).code (base + text.length) := by
  induction text generalizing base with
  | nil => rfl
  | cons c text ih =>
    have shifted : base + 1 + text.length = base + (text.length + 1) := by omega
    rw [List.map_cons, List.cons_append, code_seqs_cons, Pattern.char, Pattern.length, ih, shifted]
    rfl

theorem code_between (opening : List Char) (chars : CharClass) (closing : List Char) :
    (between opening chars closing).code 0 = takes opening ++
      .opens 1 :: .take chars :: .fork (opening.length + 1) (opening.length + 1 + 2) :: .closes 1 ::
        takes closing := by
  have group (base : Nat) : (Pattern.group 1 (.loop true 1 none (.set chars))).code base =
      [.opens 1, .take chars, .fork (base + 1) (base + 1 + 2), .closes 1] := by
    simp [Pattern.code, Pattern.copies, Pattern.forkInto, Pattern.length]
  have last := code_chars closing []
  simp only [List.append_nil, Pattern.seqs, Pattern.code] at last
  rw [between, code_chars, code_seqs_cons, group, last]
  simp

theorem laid_between (opening : List Char) (chars : CharClass) (closing : List Char) :
    Laid (between opening chars closing).program 0 (takes opening ++
      (.opens 1 :: .take chars :: .fork (opening.length + 1) (opening.length + 1 + 2) :: .closes 1 ::
        (takes closing ++ [.accept]))) := by
  have laid := laid_toArray ((between opening chars closing).code 0 ++ [.accept])
  rw [code_between] at laid
  simpa [Pattern.program, code_between] using laid

theorem laid_group (opening : List Char) (chars : CharClass) (closing : List Char) :
    Laid (between opening chars closing).program opening.length
      (.opens 1 :: .take chars :: .fork (opening.length + 1) (opening.length + 1 + 2) :: .closes 1 ::
        (takes closing ++ [.accept])) := by
  have laid := (laid_between opening chars closing).right
  simpa [takes] using laid

theorem laid_exit (opening : List Char) (chars : CharClass) (closing : List Char) :
    Laid (between opening chars closing).program (opening.length + 1 + 2)
      (.closes 1 :: (takes closing ++ [.accept])) :=
  (laid_group opening chars closing).tail.tail.tail

section Search

variable {opening closing source : List Char} {chars : CharClass} {start : Nat}

theorem leads_start {rest : List Char} (split : source.drop start = opening ++ rest)
    (onward : Leads (between opening chars closing).program source.toArray
      ⟨opening.length + 1, start + opening.length, Trail.openGroup {} 1 (start + opening.length)⟩ result) :
    Leads (between opening chars closing).program source.toArray (startAt start) result := by
  refine leads_takes (laid_between opening chars closing).left split ?_
  rw [Nat.zero_add]
  exact .goes (by simp only [Thread.move, (laid_group opening chars closing).head]) onward

theorem move_exit (text : Array Char) (stop : Nat) (trail : Trail) :
    Thread.move (between opening chars closing).program text ⟨opening.length + 1 + 2, stop, trail⟩ =
      .goes ⟨opening.length + 1 + 2 + 1, stop, trail.closeGroup 1 stop⟩ := by
  simp only [Thread.move, (laid_exit opening chars closing).head]

/-- Behind the body the group is closed and the closing text has to follow. -/
theorem leads_exit {stop : Nat} {trail : Trail} {rest : List Char} (split : source.drop stop = closing ++ rest) :
    Leads (between opening chars closing).program source.toArray ⟨opening.length + 1 + 2, stop, trail⟩
      (some ⟨opening.length + 1 + 2 + 1 + closing.length, stop + closing.length, trail.closeGroup 1 stop⟩) := by
  have laid := laid_exit opening chars closing
  have accept := laid.tail.right.head
  simp only [takes, List.length_map] at accept
  refine .goes (move_exit source.toArray stop trail) (leads_takes laid.tail.left split ?_)
  exact ⟨0, .accepts (by simp only [Thread.move, accept])⟩

theorem dead_exit {stop : Nat} {trail : Trail} (absent : ∀ rest, source.drop stop ≠ closing ++ rest) :
    Dead (between opening chars closing).program source.toArray ⟨opening.length + 1 + 2, stop, trail⟩ :=
  .goes (move_exit source.toArray stop trail) (dead_takes (laid_exit opening chars closing).tail.left absent)

/-- The body that ends at a way out of the loop behind which the closing text stands. -/
theorem enclosed_of_exit {stop : Nat} {run tail rest : List Char}
    (split : source.drop start = opening ++ (run ++ tail)) (inside : ∀ c ∈ run, chars.has c = true)
    (above : start + opening.length < stop) (below : stop ≤ start + opening.length + run.length)
    (exit : source.drop stop = closing ++ rest) :
    ∃ body, body.length = stop - (start + opening.length) ∧
      Enclosed opening chars closing body (source.drop start) := by
  have size : (run.take (stop - (start + opening.length))).length = stop - (start + opening.length) := by
    rw [List.length_take]
    omega
  have behind : run.drop (stop - (start + opening.length)) ++ tail = closing ++ rest := by
    have there : stop = start + (opening.length + (stop - (start + opening.length))) := by omega
    rw [there, ← List.drop_drop, split, List.drop_length_add_append,
      List.drop_append_of_le_length (by omega)] at exit
    exact exit
  refine ⟨run.take (stop - (start + opening.length)), size, ?_, ?_, rest, ?_⟩
  · intro empty
    rw [empty, List.length_nil] at size
    omega
  · intro c member
    exact inside c (List.mem_of_mem_take member)
  · rw [split, List.append_assoc, List.append_assoc, ← behind, ← List.append_assoc (run.take _),
      List.take_append_drop]

theorem dead_between (nothing : ∀ body, ¬ Enclosed opening chars closing body (source.drop start)) :
    Dead (between opening chars closing).program source.toArray (startAt start) := by
  by_cases begins : ∃ rest, source.drop start = opening ++ rest
  · obtain ⟨rest, split⟩ := begins
    have inside : ∀ c ∈ rest.takeWhile chars.has, chars.has c = true := fun _ member => Text.of_mem_takeWhile member
    have ends := Text.endsRun_dropWhile chars.has rest
    rw [← List.takeWhile_append_dropWhile (p := chars.has) (l := rest)] at split
    have behind : source.drop (start + opening.length) = rest.takeWhile chars.has ++ rest.dropWhile chars.has := by
      rw [← List.drop_drop, split, List.drop_left]
    refine leads_start split (dead_loop (laid_group opening chars closing).tail behind inside ends ?_)
    intro stop above below
    refine dead_exit fun later exit => ?_
    obtain ⟨body, _, enclosed⟩ := enclosed_of_exit split inside above below exit
    exact nothing body enclosed
  · exact dead_takes (laid_between opening chars closing).left fun rest split => begins ⟨rest, split⟩

/-- A match takes the longest body that is enclosed where it begins. -/
theorem leads_between {body : List Char} (enclosed : Enclosed opening chars closing body (source.drop start))
    (longest : ∀ other, Enclosed opening chars closing other (source.drop start) → other.length ≤ body.length) :
    Leads (between opening chars closing).program source.toArray (startAt start)
      (some ⟨opening.length + 1 + 2 + 1 + closing.length, start + opening.length + body.length + closing.length,
        (Trail.openGroup {} 1 (start + opening.length)).closeGroup 1 (start + opening.length + body.length)⟩) := by
  obtain ⟨nonempty, bodyInside, rest, whole⟩ := enclosed
  rw [List.append_assoc, List.append_assoc] at whole
  have tail : (body ++ (closing ++ rest)).takeWhile chars.has = body ++ (closing ++ rest).takeWhile chars.has :=
    List.takeWhile_append_of_pos bodyInside
  have inside : ∀ c ∈ (body ++ (closing ++ rest)).takeWhile chars.has, chars.has c = true :=
    fun _ member => Text.of_mem_takeWhile member
  have ends := Text.endsRun_dropWhile chars.has (body ++ (closing ++ rest))
  have split := whole
  rw [← List.takeWhile_append_dropWhile (p := chars.has) (l := body ++ (closing ++ rest))] at split
  have behind := congrArg (List.drop opening.length) split
  rw [List.drop_drop, List.drop_left] at behind
  have room := congrArg List.length tail
  rw [List.length_append] at room
  have positive := List.length_pos_iff.mpr nonempty
  have exit : source.drop (start + opening.length + body.length) = closing ++ rest := by
    rw [Nat.add_assoc, ← List.drop_drop, whole, List.drop_length_add_append, List.drop_left]
  refine leads_start split (leads_loop (laid_group opening chars closing).tail behind inside ends
    (by omega) (by omega) (leads_exit exit) ?_)
  intro later above below
  refine dead_exit fun after exit => ?_
  obtain ⟨other, size, enclosed⟩ := enclosed_of_exit split inside (by omega) below exit
  have short := longest other enclosed
  omega

theorem find?_between_none {origin : Nat}
    (nothing : ∀ start, origin ≤ start → ∀ body, ¬ Enclosed opening chars closing body (source.drop start)) :
    find? (between opening chars closing).program source.toArray origin = none :=
  find?_eq_none fun start low _ => dead_between (nothing start low)

/-- The first place where something is enclosed is the match, and its group is the longest body there. -/
theorem find?_between_some {origin : Nat} {body : List Char} (low : origin ≤ start)
    (earlier : ∀ position, origin ≤ position → position < start →
      ∀ other, ¬ Enclosed opening chars closing other (source.drop position))
    (enclosed : Enclosed opening chars closing body (source.drop start))
    (longest : ∀ other, Enclosed opening chars closing other (source.drop start) → other.length ≤ body.length) :
    ∃ found, find? (between opening chars closing).program source.toArray origin = some found ∧
      found.span = ⟨start, start + opening.length + body.length + closing.length⟩ ∧
      found.group? 1 = some ⟨start + opening.length, start + opening.length + body.length⟩ := by
  have high : start ≤ source.toArray.size := by
    obtain ⟨nonempty, _, rest, whole⟩ := enclosed
    have size := congrArg List.length whole
    have positive := List.length_pos_iff.mpr nonempty
    simp only [List.length_drop, List.length_append] at size
    rw [List.size_toArray]
    omega
  refine ⟨_, find?_eq_some low high ?_ (leads_between enclosed longest), rfl, rfl⟩
  exact fun position above below => dead_between (earlier position above below)

end Search

end TextTemplate.Regex
