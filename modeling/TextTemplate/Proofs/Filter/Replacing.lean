import TextTemplate.Proofs.Filter.Insertion

/-! How replacing calls end. Faulty arguments are reported in one order, and flags count as a set:
a call depends on which letters they hold, and neither on their order nor on their number. -/
namespace TextTemplate.Replace

def Supported (c : Char) : Prop := c ∈ ['g', 'i', 'm', 's', 'u']

instance (c : Char) : Decidable (Supported c) := inferInstanceAs (Decidable (c ∈ _))

def flagsOf (letters : List Char) : Regex.Flags where
  ignoreCase := letters.contains 'i'
  multiLine := letters.contains 'm'
  dotAll := letters.contains 's'

/-- The letters of the flags by the arguments behind the replacement. -/
inductive Flagged : List Value → List Char → Prop where
  | absent : Flagged [] ['g']
  | empty (blank : flags.text = "") : Flagged (flags :: more) ['g']
  | given (filled : flags.text ≠ "") : Flagged (flags :: more) flags.text.toList

/-- How a replacing call with its arguments ends. -/
inductive Ends (value : Value) : List Value → Except FilterError Value → Prop where
  | noPattern : Ends value [] (.error (.missingArgument "replace" 0))
  | noReplacement : Ends value [pattern] (.error (.missingArgument "replace" 1))
  | unsupported (flagged : Flagged more (before ++ flag :: after)) (supported : ∀ c ∈ before, Supported c)
      (unknown : ¬Supported flag) :
      Ends value (pattern :: replacement :: more) (.error (.unsupportedFlag "replace" flag))
  | invalid (flagged : Flagged more letters) (supported : ∀ c ∈ letters, Supported c)
      (faulty : Regex.compile (flagsOf letters) pattern.text = .error defect) :
      Ends value (pattern :: replacement :: more) (.error (.invalidRegex "replace" defect))
  | replaced (flagged : Flagged more letters) (supported : ∀ c ∈ letters, Supported c)
      (compiled : Regex.compile (flagsOf letters) pattern.text = .ok regex) :
      Ends value (pattern :: replacement :: more) (.ok (.str (String.ofList
        (expanded regex (letters.contains 'g') replacement.text.toList value.text.toList))))

variable {value pattern replacement : Value} {more : List Value} {letters before after : List Char} {flag : Char}
variable {arguments : List Value} {options : Options} {answer : Except FilterError Value}

theorem mem_addLetter {c letter : Char} :
    c ∈ (options.addLetter letter).letters ↔ c ∈ options.letters ∨ c = letter := by
  unfold Options.addLetter
  split
  · rename_i present
    have member := List.contains_iff_mem.mp present
    constructor
    · exact .inl
    · rintro (old | rfl)
      · exact old
      · exact member
  · simp

theorem addLetter_everywhere (letter : Char) : (options.addLetter letter).everywhere = options.everywhere := by
  unfold Options.addLetter
  split <;> rfl

theorem readFrom_cons {c : Char} (supported : Supported c) (options : Options) (letters : List Char) :
    ∃ next : Options, options.readFrom (c :: letters) = next.readFrom letters ∧
      (next.everywhere = true ↔ options.everywhere = true ∨ 'g' = c) ∧
      ∀ letter ∈ ['i', 'm', 's'], letter ∈ next.letters ↔ letter ∈ options.letters ∨ letter = c := by
  rw [Options.readFrom]
  by_cases every : c = 'g'
  · subst every
    exact ⟨{ options with everywhere := true }, if_pos rfl, by simp, by simp⟩
  · rw [if_neg every]
    by_cases kept : c = 'i' ∨ c = 'm' ∨ c = 's'
    · refine ⟨options.addLetter c, if_pos kept, ?_, fun letter _ => mem_addLetter⟩
      simp [addLetter_everywhere, Ne.symm every]
    · obtain rfl : c = 'u' := by simp_all [Supported]
      exact ⟨options, rfl, by simp, by simp⟩

theorem readFrom_unsupported (supported : ∀ c ∈ before, Supported c) (unknown : ¬Supported flag)
    (options : Options) : options.readFrom (before ++ flag :: after) = .error flag := by
  induction before generalizing options with
  | nil =>
    simp only [Supported, List.mem_cons, List.not_mem_nil, or_false, not_or] at unknown
    simp [Options.readFrom, unknown]
  | cons c before ih =>
    obtain ⟨known, supported⟩ := List.forall_mem_cons.mp supported
    obtain ⟨next, onward, _⟩ := readFrom_cons known options (before ++ flag :: after)
    rw [List.cons_append, onward]
    exact ih supported next

/-- Supported letters are all read, and leave nothing but what they are as a set. -/
theorem readFrom_supported (supported : ∀ c ∈ letters, Supported c) (options : Options) :
    ∃ result, options.readFrom letters = .ok result ∧
      (result.everywhere = true ↔ options.everywhere = true ∨ 'g' ∈ letters) ∧
      ∀ letter ∈ ['i', 'm', 's'], letter ∈ result.letters ↔ letter ∈ options.letters ∨ letter ∈ letters := by
  induction letters generalizing options with
  | nil => exact ⟨options, rfl, by simp, by simp⟩
  | cons c letters ih =>
    obtain ⟨known, supported⟩ := List.forall_mem_cons.mp supported
    obtain ⟨next, onward, every, kept⟩ := readFrom_cons known options letters
    obtain ⟨result, read, everywhere, set⟩ := ih supported next
    refine ⟨result, onward.trans read, ?_, ?_⟩
    · rw [everywhere, every, List.mem_cons, or_assoc]
    · intro letter member
      rw [set letter member, kept letter member, List.mem_cons, or_assoc]

theorem supported_or_split (letters : List Char) :
    (∀ c ∈ letters, Supported c) ∨ ∃ before flag after, letters = before ++ flag :: after ∧
      (∀ c ∈ before, Supported c) ∧ ¬Supported flag := by
  cases found : letters.find? fun c => ¬Supported c with
  | none =>
    left
    intro c member
    simpa using List.find?_eq_none.mp found c member
  | some flag =>
    obtain ⟨unknown, before, after, rfl, all⟩ := List.find?_eq_some_iff_append.mp found
    right
    refine ⟨before, flag, after, rfl, fun c member => ?_, by simpa using unknown⟩
    simpa using all c member

theorem Flagged.flagsText (flagged : Flagged more letters) (pattern replacement : Value) :
    flagsText (pattern :: replacement :: more) = letters := by
  cases flagged with
  | absent => rfl
  | empty blank => simp [Replace.flagsText, blank]
  | given filled => simp [Replace.flagsText, filled]

theorem exists_flagged (more : List Value) : ∃ letters, Flagged more letters := by
  cases more with
  | nil => exact ⟨_, .absent⟩
  | cons flags more =>
    by_cases blank : flags.text = ""
    · exact ⟨_, .empty blank⟩
    · exact ⟨_, .given blank⟩

/-- A call whose flags are supported depends on them only as a set. -/
theorem filter_of_supported (flagged : Flagged more letters) (supported : ∀ c ∈ letters, Supported c)
    (value pattern replacement : Value) :
    filter value (pattern :: replacement :: more) =
      settle (fun regex => expanded regex (letters.contains 'g') replacement.text.toList value.text.toList)
        (Regex.compile (flagsOf letters) pattern.text) := by
  obtain ⟨options, read, everywhere, kept⟩ := readFrom_supported supported {}
  have flags : Options.read (flagsText (pattern :: replacement :: more)) = .ok options := by
    rw [flagged.flagsText]
    exact read
  have every : options.everywhere = letters.contains 'g' := by
    rw [Bool.eq_iff_iff, everywhere, List.contains_iff_mem]
    simp
  have same : Request.flags ⟨pattern.text, options.letters⟩ = flagsOf letters := by
    simp [Request.flags, flagsOf, kept]
  rw [filter_eq_answerBy, answerBy_of_job (Job.read_options flags), Request.compile, same, every]

theorem Ends.filter_eq (ends : Ends value arguments answer) : filter value arguments = answer := by
  cases ends with
  | noPattern => rfl
  | noReplacement => rfl
  | unsupported flagged supported unknown =>
    apply filter_of_fault
    apply Job.read_unsupported
    rw [flagged.flagsText]
    exact readFrom_unsupported supported unknown {}
  | invalid flagged supported faulty => rw [filter_of_supported flagged supported, faulty, settle]
  | replaced flagged supported compiled => rw [filter_of_supported flagged supported, compiled, settle]

theorem exists_ends (value : Value) (arguments : List Value) : ∃ answer, Ends value arguments answer := by
  match arguments with
  | [] => exact ⟨_, .noPattern⟩
  | [_] => exact ⟨_, .noReplacement⟩
  | pattern :: replacement :: more =>
    obtain ⟨letters, flagged⟩ := exists_flagged more
    rcases supported_or_split letters with supported | ⟨before, flag, after, rfl, supported, unknown⟩
    · cases compiled : Regex.compile (flagsOf letters) pattern.text with
      | error defect => exact ⟨_, .invalid flagged supported compiled⟩
      | ok regex => exact ⟨_, .replaced flagged supported compiled⟩
    · exact ⟨_, .unsupported flagged supported unknown⟩

theorem filter_eq_iff : filter value arguments = answer ↔ Ends value arguments answer := by
  constructor
  · rintro rfl
    obtain ⟨answer, ends⟩ := exists_ends value arguments
    rwa [ends.filter_eq]
  · exact Ends.filter_eq

/-- Only the letters that are there count, and `u` is not one of them. -/
theorem filter_of_alike {first second : List Value} {other : List Char} (flagged : Flagged first letters)
    (reflagged : Flagged second other) (supported : ∀ c ∈ letters, Supported c) (allowed : ∀ c ∈ other, Supported c)
    (alike : ∀ c, c ≠ 'u' → (c ∈ letters ↔ c ∈ other)) (value pattern replacement : Value) :
    filter value (pattern :: replacement :: first) = filter value (pattern :: replacement :: second) := by
  have same (c : Char) (counts : c ≠ 'u') : letters.contains c = other.contains c := by
    rw [Bool.eq_iff_iff, List.contains_iff_mem, List.contains_iff_mem]
    exact alike c counts
  have flags : flagsOf letters = flagsOf other := by
    rw [flagsOf, flagsOf, same 'i' (by decide), same 'm' (by decide), same 's' (by decide)]
  rw [filter_of_supported flagged supported, filter_of_supported reflagged allowed, flags, same 'g' (by decide)]

/-- A replacing call ends in the first of its faults, in one order, or in a text. Its flags are a set
of letters, and without any it replaces every match. -/
theorem filter_iff_ends (value : Value) :
    (∀ arguments answer, filter value arguments = answer ↔ Ends value arguments answer) ∧
    (∀ pattern replacement first second more later, first.text ≠ "" → second.text ≠ "" →
      (∀ c ∈ first.text.toList, Supported c) → (∀ c ∈ second.text.toList, Supported c) →
      (∀ c, c ≠ 'u' → (c ∈ first.text.toList ↔ c ∈ second.text.toList)) →
      filter value (pattern :: replacement :: first :: more) =
        filter value (pattern :: replacement :: second :: later)) ∧
    ∀ pattern replacement flags more later,
      filter value [pattern, replacement] = filter value (pattern :: replacement :: .str "g" :: later) ∧
      (flags.text = "" → filter value (pattern :: replacement :: flags :: more) =
        filter value (pattern :: replacement :: .str "g" :: later)) := by
  have single : ∀ c ∈ ['g'], Supported c := by simp [Supported]
  refine ⟨fun arguments answer => filter_eq_iff, ?_, ?_⟩
  · intro pattern replacement first second more later filled refilled supported allowed alike
    exact filter_of_alike (.given filled) (.given refilled) supported allowed alike value pattern replacement
  · intro pattern replacement flags more later
    have letter : Flagged (.str "g" :: later) ['g'] := .given (by decide)
    refine ⟨filter_of_alike .absent letter single single (fun _ _ => Iff.rfl) value pattern replacement, ?_⟩
    intro blank
    exact filter_of_alike (.empty blank) letter single single (fun _ _ => Iff.rfl) value pattern replacement

/-- Letters are shuffled and repeated, and an unknown one comes before a faulty pattern. -/
theorem filter_iff_ends_shuffled :
    (∀ c ∈ "sum".toList, Supported c) ∧ (∀ c ∈ "mmss".toList, Supported c) ∧
      filter (.str "b\na\nc") [.str "^a.", .str "[$&]", .str "sum"] = .ok (.str "b\n[a\n]c") ∧
      filter (.str "b\na\nc") [.str "^a.", .str "[$&]", .str "mmss"] = .ok (.str "b\n[a\n]c") ∧
      filter (.str "b\na\nc") [.str "(", .str "", .str "gyz"] = .error (.unsupportedFlag "replace" 'y') := by
  have shuffled : ∀ c ∈ "sum".toList, Supported c := by simp [Supported]
  have repeated : ∀ c ∈ "mmss".toList, Supported c := by simp [Supported]
  have alike : ∀ c, c ≠ 'u' → (c ∈ "sum".toList ↔ c ∈ "mmss".toList) := by
    intro c counts
    simp [counts, or_comm]
  have unknown : Flagged [.str "gyz"] (['g'] ++ 'y' :: ['z']) := .given (by decide)
  obtain ⟨ways, same, _⟩ := filter_iff_ends (.str "b\na\nc")
  have written : filter (.str "b\na\nc") [.str "^a.", .str "[$&]", .str "sum"] = .ok (.str "b\n[a\n]c") := by decide +kernel
  have again := same (.str "^a.") (.str "[$&]") (.str "sum") (.str "mmss") [] [] (by decide) (by decide) shuffled
    repeated alike
  refine ⟨shuffled, repeated, written, again ▸ written, ?_⟩
  apply (ways _ _).mpr
  exact .unsupported unknown (by simp [Supported]) (by simp [Supported])

/-- Replacing the matches of any pattern by themselves leaves the text of the value. -/
theorem filter_whole (value pattern : Value) {regex : Regex} (flagged : Flagged more letters)
    (supported : ∀ c ∈ letters, Supported c) (valid : Regex.compile (flagsOf letters) pattern.text = .ok regex) :
    filter value (pattern :: .str "$&" :: more) = .ok (.str value.text) := by
  have ends : Ends value (pattern :: .str "$&" :: more) _ := .replaced flagged supported valid
  rw [ends.filter_eq, Value.text, expanded_whole, String.ofList_toList]

/-- Empty matches stand between and behind the others, and a group takes part in some of them. -/
theorem filter_whole_empty_matches :
    (∃ regex, Regex.compile (flagsOf "mg".toList) "^|(é)+|b*$" = .ok regex) ∧
      filter (.str "éb\néé") [.str "^|(é)+|b*$", .str "$&", .str "mg"] = .ok (.str "éb\néé") := by
  obtain ⟨regex, valid⟩ : ∃ regex, Regex.compile (flagsOf "mg".toList) "^|(é)+|b*$" = .ok regex := ⟨_, rfl⟩
  have flagged : Flagged [.str "mg"] "mg".toList := .given (by decide)
  exact ⟨⟨regex, valid⟩, filter_whole (.str "éb\néé") (.str "^|(é)+|b*$") flagged (by simp [Supported]) valid⟩

end TextTemplate.Replace
