import TextTemplate.Proofs.Regex.Between
import TextTemplate.Proofs.Result
import TextTemplate.Template.Delimiter

/-! The delimiter of two texts. Escaping makes each text a pattern that takes its characters
as they stand, so the pattern that is read is an opening text, a group without braces and a
closing text. -/
namespace TextTemplate.Delimiter

open Regex (Reader Pattern CharClass Escape between Flags Item)

def Brace (c : Char) : Prop := c = '\x7b' ∨ c = '\x7d'

def braceless : CharClass := .complement (.union (.single '\x7b') (.single '\x7d'))

theorem braceless_iff {c : Char} : braceless.has c = true ↔ ¬ Brace c := by
  simp only [braceless, CharClass.has, CharClass.holds, Brace]
  have opening : c = '\x7b' ↔ (CharClass.single '\x7b').holds c.toNat = true := Regex.has_single.symm
  have closing : c = '\x7d' ↔ (CharClass.single '\x7d').holds c.toNat = true := Regex.has_single.symm
  rw [opening, closing]
  simp [not_or]

def escapeChar (c : Char) : List Char := if Escape.metaCharacters.contains c then ['\\', c] else [c]

theorem step_meta (reader : Reader) {c : Char} (special : Escape.metaCharacters.contains c = true)
    (unicode : reader.flags = {}) (rest : List Char) :
    reader.step '\\' (c :: rest) = .ok (reader.pushPattern (.char c), rest) := by
  have itself : Escape.standsForItself c = true := by rw [Escape.standsForItself, special, Bool.true_or]
  simp only [Reader.step, unicode, Escape.read, itself, if_true]
  rfl

theorem step_plain (reader : Reader) {c : Char} (ordinary : Escape.metaCharacters.contains c = false)
    (unicode : reader.flags = {}) (rest : List Char) :
    reader.step c rest = .ok (reader.pushPattern (.char c), rest) := by
  unfold Reader.step
  split
  all_goals first | exact absurd ordinary (by decide) | rw [unicode]
  rfl

def feed (reader : Reader) (text : List Char) : Reader :=
  text.foldl (fun reader c => reader.pushPattern (.char c)) reader

theorem run_step {reader next : Reader} {c : Char} {rest after : List Char} (plain : reader.flags = {})
    (step : reader.step c rest = .ok (next, after)) (fuel : Nat) :
    Reader.run (fuel + 1) reader (c :: rest) = Reader.run fuel next after := by
  simp [Reader.run, Flags.skip, plain, step]

/-- An escaped text is read as its characters, one step for each. -/
theorem run_escape (reader : Reader) (text rest : List Char) (plain : reader.flags = {}) (fuel : Nat) :
    Reader.run (fuel + text.length) reader (text.flatMap escapeChar ++ rest) =
      Reader.run fuel (feed reader text) rest := by
  induction text generalizing reader with
  | nil => rfl
  | cons c text ih =>
    rw [List.flatMap_cons, List.append_assoc, List.length_cons, ← Nat.add_assoc, escapeChar]
    by_cases special : Escape.metaCharacters.contains c = true
    · rw [if_pos special, List.cons_append, List.singleton_append, run_step plain (step_meta reader special plain _)]
      exact ih _ plain
    · rw [if_neg special, List.singleton_append]
      rw [run_step plain (step_plain reader (Bool.eq_false_iff.mpr special) plain _)]
      exact ih _ plain

theorem read_bracket (rest : List Char) :
    ∃ depth, Regex.Bracket.read {} ('^' :: '\x7b' :: '\x7d' :: ']' :: rest) = .ok (⟨braceless, depth⟩, rest) :=
  ⟨_, rfl⟩

/-- The reader behind the group of the content. -/
def enclose (reader : Reader) (depth : Nat) : Reader :=
  { reader with
    level := reader.level.push { pattern := .group (reader.groups + 1) (.loop true 1 none (.set braceless)), depth }
    groups := reader.groups + 1 }

/-- The content is read as a group around one character or more without braces. -/
theorem run_content (reader : Reader) (rest : List Char) (plain : reader.flags = {}) (fuel : Nat) :
    ∃ depth, Reader.run (fuel + 4) reader (contentPattern.toList ++ rest) =
      Reader.run fuel (enclose reader depth) rest := by
  obtain ⟨depth, bracket⟩ := read_bracket ('+' :: ')' :: rest)
  obtain ⟨flags, level, outer, groups, names⟩ := reader
  obtain rfl : flags = {} := plain
  have text : contentPattern.toList ++ rest =
      '(' :: '[' :: '^' :: '\x7b' :: '\x7d' :: ']' :: '+' :: ')' :: rest := rfl
  have opened : Reader.step ⟨{}, level, outer, groups, names⟩ '('
      ('[' :: '^' :: '\x7b' :: '\x7d' :: ']' :: '+' :: ')' :: rest) =
      .ok (Reader.capture ⟨{}, level, outer, groups, names⟩,
        '[' :: '^' :: '\x7b' :: '\x7d' :: ']' :: '+' :: ')' :: rest) := rfl
  have taken : (Reader.capture ⟨{}, level, outer, groups, names⟩).step '['
      ('^' :: '\x7b' :: '\x7d' :: ']' :: '+' :: ')' :: rest) =
      .ok ((Reader.capture ⟨{}, level, outer, groups, names⟩).push { pattern := .set braceless, depth },
        '+' :: ')' :: rest) := by
    simp only [Reader.step, Reader.capture, Reader.descend, bracket]
    rfl
  refine ⟨depth + 2, ?_⟩
  rw [text, run_step rfl opened, run_step rfl taken, run_step rfl rfl, run_step rfl rfl]
  rfl

theorem feed_level (reader : Reader) (text : List Char) :
    feed reader text =
      { reader with
        level.items := (text.reverse.map fun c => { pattern := .char c }) ++ reader.level.items } := by
  induction text generalizing reader with
  | nil => rfl
  | cons c text ih =>
    rw [feed, List.foldl_cons, ← feed, ih]
    simp [Reader.pushPattern, Reader.push, Regex.Level.push]

theorem sequence_pattern (level : Regex.Level) :
    level.sequence.pattern = .seqs (level.items.reverse.map Item.pattern) := by
  unfold Regex.Level.sequence
  split
  · rename_i empty
    rw [empty]
    rfl
  · rename_i only single
    rw [single]
    rfl
  · rfl

theorem length_le_escape (text : List Char) : text.length ≤ (text.flatMap escapeChar).length := by
  induction text with
  | nil => exact Nat.le_refl _
  | cons c text ih =>
    have own : 1 ≤ (escapeChar c).length := by
      unfold escapeChar
      split
      · exact Nat.le_succ 1
      · exact Nat.le_refl 1
    rw [List.flatMap_cons, List.length_append, List.length_cons]
    omega

def pairText (opening closing : List Char) : List Char :=
  opening.flatMap escapeChar ++ contentPattern.toList ++ closing.flatMap escapeChar

def pairReader (opening closing : List Char) (depth : Nat) : Reader :=
  feed (enclose (feed (.start {}) opening) depth) closing

theorem feed_start_flags (text : List Char) : (feed (.start {}) text).flags = {} := by
  rw [feed_level]
  rfl

theorem pairReader_flags (opening closing : List Char) (depth : Nat) :
    (pairReader opening closing depth).flags = {} := by
  rw [pairReader, feed_level]
  exact feed_start_flags opening

theorem pairReader_outer (opening closing : List Char) (depth : Nat) :
    (pairReader opening closing depth).outer = [] := by
  rw [pairReader, feed_level, feed_level]
  rfl

theorem pairReader_pattern (opening closing : List Char) (depth : Nat) :
    (pairReader opening closing depth).level.choice.pattern = between opening braceless closing := by
  rw [pairReader, feed_level, feed_level]
  refine (sequence_pattern _).trans ?_
  rw [between]
  simp [enclose, Regex.Level.push, Reader.start, Function.comp_def]

/-- There is fuel for one step at each character of the texts, four at the content, and one more. -/
theorem exists_spare (opening closing : List Char) :
    ∃ spare, (pairText opening closing).length + 1 = spare + 1 + closing.length + 4 + opening.length := by
  have first := length_le_escape opening
  have second := length_le_escape closing
  have middle : contentPattern.toList.length = 8 := rfl
  refine ⟨(pairText opening closing).length - (closing.length + 4 + opening.length), ?_⟩
  simp only [pairText, List.length_append]
  omega

theorem run_pairText (opening closing : List Char) :
    ∃ depth, Reader.run ((pairText opening closing).length + 1) (.start {}) (pairText opening closing) =
      .ok (pairReader opening closing depth) := by
  obtain ⟨spare, fuel⟩ := exists_spare opening closing
  have begun := feed_start_flags opening
  obtain ⟨depth, content⟩ := run_content (feed (.start {}) opening) (closing.flatMap escapeChar) begun
    (spare + 1 + closing.length)
  have run := run_escape (.start {}) opening (contentPattern.toList ++ closing.flatMap escapeChar) rfl
    (spare + 1 + closing.length + 4)
  have last := run_escape (enclose (feed (.start {}) opening) depth) closing [] begun (spare + 1)
  rw [List.append_nil] at last
  refine ⟨depth, ?_⟩
  rw [fuel, pairText, List.append_assoc, run, content, last]
  have plain := pairReader_flags opening closing depth
  rw [pairReader] at plain ⊢
  simp [Reader.run, Flags.skip, plain]

/-- Reading the pattern text of two texts gives the pattern between them, or nothing when it
is too large. -/
theorem read_pair {opening closing : List Char} {pattern : Pattern}
    (success : Pattern.read {} (pairText opening closing) = .ok pattern) :
    pattern = between opening braceless closing := by
  obtain ⟨depth, run⟩ := run_pairText opening closing
  unfold Pattern.read at success
  rw [run] at success
  simp only [bind, Except.bind, pairReader_outer, List.isEmpty_nil, Bool.not_true, Bool.false_eq_true,
    if_false] at success
  split at success
  · cases success
  · split at success
    · cases success
    · cases success
      exact pairReader_pattern opening closing depth

/-- The machine of a pair is the one for the pattern between its texts. -/
theorem pair_program {opening closing : String} {delimiter : Delimiter}
    (paired : pair opening closing = .ok delimiter) :
    delimiter.regex.program = (between opening.toList braceless closing.toList).program := by
  have text : (escape opening ++ contentPattern ++ escape closing).toList =
      pairText opening.toList closing.toList := by
    simp only [String.toList_append, escape, String.toList_ofList]
    rfl
  rw [pair, ofPattern] at paired
  split at paired
  · cases paired
  · rename_i regex compiled
    rw [Regex.compile, text] at compiled
    obtain ⟨pattern, read, rfl⟩ := Result.map_eq_ok.mp compiled
    split at paired
    · cases paired
      exact congrArg Pattern.program (read_pair read)
    · cases paired

theorem pair_standard : pair "$\x7b" "\x7d" = .ok standard := by
  have text : escape "$\x7b" ++ contentPattern ++ escape "\x7d" = defaultPattern := by decide
  rw [pair, text, ofPattern_defaultPattern]

end TextTemplate.Delimiter
