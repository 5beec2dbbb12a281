import TextTemplate.Filter.Replace
import TextTemplate.Proofs.Filter.Tokens
import TextTemplate.Proofs.Template.Segments

/-! What replaced matches turn into. A text whose dollar signs are doubled is inserted as it is,
so the two ways to insert a replacement agree, and a match that is put in its own place leaves
the text as it was. -/
namespace TextTemplate

open Regex (Match)

namespace Replacement

/-- A text with every dollar sign doubled. -/
def doubled (text : List Char) : List Char := text.flatMap fun c => if c = '$' then ['$', '$'] else [c]

variable {groups offset : Nat} {text : List Char} {subject : Array Char} {found : List Match}

theorem doubled_cons (c : Char) (text : List Char) :
    doubled (c :: text) = (if c = '$' then ['$', '$'] else [c]) ++ doubled text := rfl

theorem doubled_plain (plain : '$' ∉ text) : doubled text = text := by
  induction text with
  | nil => rfl
  | cons c text ih =>
    obtain ⟨other, plain⟩ := not_or.mp (mt List.mem_cons.mpr plain)
    rw [doubled_cons, if_neg (Ne.symm other), ih plain]
    rfl

theorem tokenised_doubled (groups : Nat) (text : List Char) :
    Tokenised groups (doubled text) (text.map .char) := by
  induction text with
  | nil => exact .done
  | cons c text ih =>
    by_cases dollar : c = '$'
    · subst dollar
      exact .token .dollar ih
    · rw [doubled_cons, if_neg dollar]
      exact .plain dollar ih

theorem expand_of_tokenised {row : List Token} (tokenised : Tokenised groups text row) (subject : Array Char)
    (here : Match) : expand groups text subject here = row.flatMap (Token.expand subject here) := by
  rw [expand, ← tokenised_iff.mp tokenised]

theorem expand_doubled (groups : Nat) (text : List Char) (subject : Array Char) (here : Match) :
    expand groups (doubled text) subject here = text := by
  rw [expand_of_tokenised (tokenised_doubled groups text), List.flatMap_map]
  exact List.flatMap_singleton' text

theorem expand_whole (groups : Nat) (subject : Array Char) (here : Match) :
    expand groups "$&".toList subject here = slice subject here.span := by
  have tokenised : Tokenised groups "$&".toList [.whole] := .token .whole .done
  rw [expand_of_tokenised tokenised, List.flatMap_cons, List.flatMap_nil, List.append_nil]
  rfl

theorem substituteFrom_self (row : Template.Row subject.size offset found) :
    substituteFrom subject (fun here => slice subject here.span) offset found =
      slice subject ⟨offset, subject.size⟩ := by
  induction found generalizing offset with
  | nil => rfl
  | cons here found ih =>
    have behind := row.behind here List.mem_cons_self
    have proper := row.proper here List.mem_cons_self
    rw [substituteFrom, ih row.tail, slice_append subject behind proper.ordered,
      slice_append subject (Nat.le_trans behind proper.ordered) proper.inside]

end Replacement

namespace Replace

open Replacement

/-- The matches that a call replaces: all of them, or the first. -/
def chosen (regex : Regex) (everywhere : Bool) (subject : List Char) : List Match :=
  if everywhere then regex.allMatches subject.toArray else (regex.allMatches subject.toArray).take 1

/-- The text in which a replacement is inserted at the chosen matches, with its tokens expanded. -/
def expanded (regex : Regex) (everywhere : Bool) (replacement subject : List Char) : List Char :=
  substitute subject.toArray (expand regex.lastGroup replacement subject.toArray) (chosen regex everywhere subject)

/-- The text in which a replacement is inserted at the chosen matches as it is. -/
def inserted (regex : Regex) (everywhere : Bool) (replacement subject : List Char) : List Char :=
  substitute subject.toArray (fun _ => replacement) (chosen regex everywhere subject)

def settle (write : Regex → List Char) : Except Regex.Defect Regex → Except FilterError Value
  | .error defect => .error (.invalidRegex "replace" defect)
  | .ok regex => .ok (.str (String.ofList (write regex)))

/-- A replacing call that puts its text together in one way, whatever its replacement holds. -/
def answerBy (write : Regex → Bool → List Char → List Char → List Char) : Filter := fun value arguments => do
  let job ← Job.read arguments
  settle (fun regex => write regex job.everywhere job.replacement value.text.toList) job.request.compile

variable {regex : Regex} {everywhere : Bool} {replacement subject : List Char}

theorem row_chosen (regex : Regex) (everywhere : Bool) (subject : List Char) :
    Template.Row subject.toArray.size 0 (chosen regex everywhere subject) := by
  have row := Template.row_matchesOf regex.program subject.toArray
  unfold chosen
  split
  · exact row
  · exact row.sublist (List.take_sublist 1 _)

theorem expanded_whole (regex : Regex) (everywhere : Bool) (subject : List Char) :
    expanded regex everywhere "$&".toList subject = subject := by
  have itself : expand regex.lastGroup "$&".toList subject.toArray =
      fun here => slice subject.toArray here.span := funext (expand_whole regex.lastGroup subject.toArray)
  rw [expanded, itself, substitute, substituteFrom_self (row_chosen regex everywhere subject)]
  simp [slice]

theorem expanded_doubled (regex : Regex) (everywhere : Bool) (text subject : List Char) :
    expanded regex everywhere (doubled text) subject = inserted regex everywhere text subject := by
  have itself := funext (expand_doubled regex.lastGroup text subject.toArray)
  rw [expanded, itself, inserted]

theorem expanded_plain (plain : '$' ∉ replacement) (regex : Regex) (everywhere : Bool) (subject : List Char) :
    expanded regex everywhere replacement subject = inserted regex everywhere replacement subject := by
  have doubling := expanded_doubled regex everywhere replacement subject
  rwa [doubled_plain plain] at doubling

/-- The way that a call takes is always as good as the expansion of tokens. -/
theorem Job.apply_eq_expanded (job : Job) (regex : Regex) (subject : List Char) :
    job.apply regex subject = expanded regex job.everywhere job.replacement subject := by
  by_cases dollar : '$' ∈ job.replacement
  · exact if_pos (List.contains_iff_mem.mpr dollar)
  · rw [expanded_plain dollar]
    exact if_neg (mt List.contains_iff_mem.mp dollar)

variable {arguments : List Value} {write other : Regex → Bool → List Char → List Char → List Char}

theorem answerBy_of_fault {error : FilterError} (fault : Job.read arguments = .error error) (value : Value) :
    answerBy write value arguments = .error error := by
  rw [answerBy, fault]
  rfl

theorem answerBy_of_job {job : Job} (read : Job.read arguments = .ok job) (value : Value) :
    answerBy write value arguments =
      settle (fun regex => write regex job.everywhere job.replacement value.text.toList) job.request.compile := by
  rw [answerBy, read]
  rfl

/-- Every call answers as if it expanded the tokens of its replacement. -/
theorem filter_eq_answerBy (value : Value) (arguments : List Value) :
    filter value arguments = answerBy expanded value arguments := by
  cases read : Job.read arguments with
  | error error => rw [filter_of_fault read, answerBy_of_fault read]
  | ok job =>
    rw [filter_of_job value read, answerBy_of_job read]
    cases job.request.compile with
    | error defect => rfl
    | ok regex => rw [Job.finish, Job.apply_eq_expanded, settle]

theorem Job.read_unsupported {pattern replacement : Value} {more : List Value} {flag : Char}
    (failed : Options.read (flagsText (pattern :: replacement :: more)) = .error flag) :
    Job.read (pattern :: replacement :: more) = .error (.unsupportedFlag "replace" flag) := by
  simp [Job.read, argument, failed, bind, Except.bind]

theorem Job.read_options {pattern replacement : Value} {more : List Value} {options : Options}
    (success : Options.read (flagsText (pattern :: replacement :: more)) = .ok options) :
    Job.read (pattern :: replacement :: more) =
      .ok ⟨⟨pattern.text, options.letters⟩, options.everywhere, replacement.text.toList⟩ := by
  simp [Job.read, argument, success, bind, Except.bind]

theorem answerBy_congr {first second : Value}
    (alike : ∀ regex everywhere subject,
      write regex everywhere first.text.toList subject = other regex everywhere second.text.toList subject)
    (value pattern : Value) (more : List Value) :
    answerBy write value (pattern :: first :: more) = answerBy other value (pattern :: second :: more) := by
  -- Only the first argument and those behind the second say which flags a call has.
  have flags : flagsText (pattern :: second :: more) = flagsText (pattern :: first :: more) := rfl
  cases read : Options.read (flagsText (pattern :: first :: more)) with
  | error flag =>
    rw [answerBy_of_fault (Job.read_unsupported read), answerBy_of_fault (Job.read_unsupported (flags ▸ read))]
  | ok options =>
    rw [answerBy_of_job (Job.read_options read), answerBy_of_job (Job.read_options (flags ▸ read))]
    simp only [alike, Request.compile, Request.flags]

/-- A replacement whose dollar signs are doubled is inserted as it stood before, whatever it holds,
and a call that has no dollar sign to expand could as well have looked for one. -/
theorem filter_doubled (value pattern replacement : Value) (more : List Value) :
    filter value (pattern :: .str (String.ofList (doubled replacement.text.toList)) :: more) =
        answerBy inserted value (pattern :: replacement :: more) ∧
      filter value (pattern :: replacement :: more) = answerBy expanded value (pattern :: replacement :: more) ∧
      ('$' ∉ replacement.text.toList →
        filter value (pattern :: replacement :: more) = answerBy inserted value (pattern :: replacement :: more)) := by
  refine ⟨?_, filter_eq_answerBy _ _, fun plain => ?_⟩
  · rw [filter_eq_answerBy]
    apply answerBy_congr
    intro regex everywhere subject
    rw [Value.text, String.toList_ofList, expanded_doubled]
  · rw [filter_eq_answerBy]
    apply answerBy_congr
    intro regex everywhere subject
    rw [expanded_plain plain]

/-- Marks that would begin tokens are inserted as text, also where the group that they name takes part. -/
theorem filter_doubled_marks :
    filter (.str "abcb") [.str "b(c)?", .str "$$1$$$$$$&é", .str "s"] = .ok (.str "a$1$$$&éb") ∧
      '$' ∉ (Value.int 7).text.toList ∧ filter (.str "abcb") [.str "b(c)?", .int 7, .str "s"] = .ok (.str "a7b") := by
  have doubling : String.ofList (doubled (Value.str "$1$$$&é").text.toList) = "$$1$$$$$$&é" := by decide
  have written : answerBy inserted (.str "abcb") [.str "b(c)?", .str "$1$$$&é", .str "s"] =
      .ok (.str "a$1$$$&éb") := by decide +kernel
  have first := (filter_doubled (.str "abcb") (.str "b(c)?") (.str "$1$$$&é") [.str "s"]).1
  rw [doubling, written] at first
  have plain : '$' ∉ (Value.int 7).text.toList := by decide
  have only : answerBy inserted (.str "abcb") [.str "b(c)?", .int 7, .str "s"] = .ok (.str "a7b") := by decide +kernel
  have second := (filter_doubled (.str "abcb") (.str "b(c)?") (.int 7) [.str "s"]).2.2 plain
  exact ⟨first, plain, second.trans only⟩

end Replace

end TextTemplate
