import TextTemplate.Text.Blank

/-! Runs of a class that end where the class ends, and what trimming leaves of a text. -/
namespace TextTemplate.Text

/-- A run ends in front of a text when the text does not begin with one of its kind. -/
def EndsRun (kind : Char → Bool) (text : List Char) : Prop := ∀ c, text.head? = some c → kind c = false

theorem endsRun_nil (kind : Char → Bool) : EndsRun kind [] := by simp [EndsRun]

theorem endsRun_cons {kind : Char → Bool} {c : Char} (other : kind c = false) (rest : List Char) :
    EndsRun kind (c :: rest) := by simp [EndsRun, other]

theorem takeWhile_run {kind : Char → Bool} {run rest : List Char} (inside : ∀ c ∈ run, kind c = true)
    (ends : EndsRun kind rest) : (run ++ rest).takeWhile kind = run := by
  rw [List.takeWhile_append_of_pos inside]
  cases rest with
  | nil => simp
  | cons c rest => simp [ends c rfl]

theorem dropWhile_run {kind : Char → Bool} {run rest : List Char} (inside : ∀ c ∈ run, kind c = true)
    (ends : EndsRun kind rest) : (run ++ rest).dropWhile kind = rest := by
  rw [List.dropWhile_append_of_pos inside]
  cases rest with
  | nil => rfl
  | cons c rest => simp [ends c rfl]

theorem endsRun_dropWhile (kind : Char → Bool) (text : List Char) : EndsRun kind (text.dropWhile kind) := by
  intro c first
  have stopped := List.head?_dropWhile_not kind text
  rw [first] at stopped
  exact stopped

theorem of_mem_takeWhile {kind : Char → Bool} {text : List Char} {c : Char}
    (member : c ∈ text.takeWhile kind) : kind c = true := by
  have all : (text.takeWhile kind).all kind = true := List.all_takeWhile
  exact List.all_eq_true.mp all c member

def Blanks (text : List Char) : Prop := ∀ c ∈ text, isBlank c = true

theorem blanks_nil : Blanks [] := by simp [Blanks]

theorem blanks_append : Blanks (first ++ second) ↔ Blanks first ∧ Blanks second := by
  simp [Blanks, or_imp, forall_and]

theorem trimStart_blanks (blanks : Blanks gap) (text : List Char) :
    trimStart (gap ++ text) = trimStart text := List.dropWhile_append_of_pos blanks

theorem trimStart_eq_self (starts : EndsRun isBlank text) : trimStart text = text := by
  have none : ∀ c ∈ ([] : List Char), isBlank c = true := by simp
  exact dropWhile_run none starts

theorem exists_blanks_trimStart (text : List Char) : ∃ gap, Blanks gap ∧ text = gap ++ trimStart text :=
  ⟨text.takeWhile isBlank, fun _ member => of_mem_takeWhile member, List.takeWhile_append_dropWhile.symm⟩

theorem trimStart_of_blanks (blanks : Blanks text) : trimStart text = [] := by
  simpa [trimStart] using trimStart_blanks blanks []

private theorem blanks_reverse (blanks : Blanks text) : Blanks text.reverse := by
  intro c member
  exact blanks c (List.mem_reverse.mp member)

/-- Blanks around a text that has none at its ends are what trimming removes. -/
theorem trim_wrapped {before text after : List Char} (left : Blanks before) (right : Blanks after)
    (starts : EndsRun isBlank text) (finishes : EndsRun isBlank text.reverse) :
    trim (before ++ text ++ after) = text := by
  rw [trim, List.append_assoc, trimStart_blanks left]
  cases text with
  | nil =>
    rw [List.nil_append, trimStart_of_blanks right]
    rfl
  | cons c rest =>
    rw [trimStart_eq_self (by simpa [EndsRun] using starts), trimEnd, List.reverse_append,
      dropWhile_run (blanks_reverse right) finishes, List.reverse_reverse]

theorem exists_blanks_trim (text : List Char) :
    ∃ before after, Blanks before ∧ Blanks after ∧ text = before ++ trim text ++ after := by
  obtain ⟨before, left, whole⟩ := exists_blanks_trimStart text
  obtain ⟨after, right, mirrored⟩ := exists_blanks_trimStart (trimStart text).reverse
  have kept : trimStart text = trim text ++ after.reverse := by
    rw [← List.reverse_reverse (trimStart text), mirrored, List.reverse_append]
    rfl
  refine ⟨before, after.reverse, left, blanks_reverse right, ?_⟩
  rw [List.append_assoc, ← kept]
  exact whole

theorem endsRun_trim_reverse (text : List Char) : EndsRun isBlank (trim text).reverse := by
  rw [trim, trimEnd, List.reverse_reverse]
  exact endsRun_dropWhile isBlank _

end TextTemplate.Text
