import TextTemplate.Proofs.Regex.Between
import TextTemplate.Proofs.Text.Bytes
import TextTemplate.Template.Compile

/-! A text cut at the matches of a delimiter of two texts: each match takes the first place
where something is enclosed and the longest body there, and the search goes on behind it.
Compiling a source makes a literal of each gap and a placeholder of each body. -/
namespace TextTemplate.Template

open Regex (CharClass Enclosed Match between find? findAfter? matchesAfter matchesOf)
open Text (byteLength)

variable {opening closing source : List Char} {chars : CharClass}

/-- The gaps and bodies of a text, and the text behind the last of them. -/
inductive Holes (opening : List Char) (chars : CharClass) (closing : List Char) :
    List Char → List (List Char × List Char) → List Char → Prop where
  | done (nothing : ∀ before after body, text = before ++ after → ¬ Enclosed opening chars closing body after) :
      Holes opening chars closing text [] text
  | next (whole : text = gap ++ (opening ++ body ++ closing ++ later))
      (earlier : ∀ before after other, text = before ++ after → before.length < gap.length →
        ¬ Enclosed opening chars closing other after)
      (nonempty : body ≠ []) (inside : ∀ c ∈ body, chars.has c = true)
      (longest : ∀ other, Enclosed opening chars closing other (opening ++ body ++ closing ++ later) →
        other.length ≤ body.length)
      (rest : Holes opening chars closing later holes last) :
      Holes opening chars closing text ((gap, body) :: holes) last

theorem exists_longest {property : List Char → Prop} {bound : Nat}
    (bounded : ∀ text, property text → text.length ≤ bound) {text : List Char} (holds : property text) :
    ∃ longest, property longest ∧ ∀ other, property other → other.length ≤ longest.length := by
  by_cases last : ∃ other, property other ∧ text.length < other.length
  · obtain ⟨other, own, longer⟩ := last
    have room := bounded other own
    exact exists_longest bounded own
  · refine ⟨text, holds, fun other own => Nat.le_of_not_lt fun longer => last ⟨other, own, longer⟩⟩
termination_by bound - text.length

theorem length_of_enclosed {body text : List Char} (enclosed : Enclosed opening chars closing body text) :
    body.length ≤ text.length := by
  obtain ⟨_, _, rest, rfl⟩ := enclosed
  simp only [List.length_append]
  omega

theorem nothing_or_first (opening : List Char) (chars : CharClass) (closing text : List Char) :
    (∀ before after body, text = before ++ after → ¬ Enclosed opening chars closing body after) ∨
      ∃ gap after body, text = gap ++ after ∧ Enclosed opening chars closing body after ∧
        ∀ before rest other, text = before ++ rest → before.length < gap.length →
          ¬ Enclosed opening chars closing other rest := by
  by_cases here : ∃ body, Enclosed opening chars closing body text
  · obtain ⟨body, enclosed⟩ := here
    refine .inr ⟨[], text, body, rfl, enclosed, ?_⟩
    intro before rest other _ shorter
    exact absurd shorter (Nat.not_lt_zero _)
  · cases text with
    | nil =>
      left
      intro before after body same enclosed
      obtain ⟨rfl, rfl⟩ := List.nil_eq_append_iff.mp same
      exact here ⟨body, enclosed⟩
    | cons c text =>
      rcases nothing_or_first opening chars closing text with nothing | ⟨gap, after, body, rfl, enclosed, earlier⟩
      · left
        intro before after body same enclosed
        cases before with
        | nil =>
          obtain rfl : c :: text = after := same
          exact here ⟨body, enclosed⟩
        | cons d before => exact nothing before after body (List.cons.inj same).2 enclosed
      · refine .inr ⟨c :: gap, after, body, rfl, enclosed, ?_⟩
        intro before rest other same shorter enclosed
        cases before with
        | nil =>
          obtain rfl : c :: (gap ++ after) = rest := same
          exact here ⟨other, enclosed⟩
        | cons d before =>
          exact earlier before rest other (List.cons.inj same).2 (Nat.lt_of_succ_lt_succ shorter) enclosed

theorem exists_holes (opening : List Char) (chars : CharClass) (closing text : List Char) :
    ∃ holes last, Holes opening chars closing text holes last := by
  rcases nothing_or_first opening chars closing text with nothing | ⟨gap, after, body, whole, enclosed, earlier⟩
  · exact ⟨[], text, .done nothing⟩
  · obtain ⟨longest, ⟨nonempty, inside, later, rfl⟩, most⟩ :=
      exists_longest (fun _ own => length_of_enclosed own) enclosed
    have shorter : later.length < text.length := by
      have positive := List.length_pos_iff.mpr nonempty
      rw [whole]
      simp only [List.length_append]
      omega
    obtain ⟨holes, last, rest⟩ := exists_holes opening chars closing later
    exact ⟨_, last, .next whole earlier nonempty inside most rest⟩
termination_by text.length

theorem holes_single {body : List Char} (nonempty : body ≠ []) (inside : ∀ c ∈ body, chars.has c = true) :
    Holes opening chars closing (opening ++ body ++ closing) [([], body)] [] := by
  have whole : opening ++ body ++ closing = [] ++ (opening ++ body ++ closing ++ []) := by simp
  refine .next whole ?_ nonempty inside ?_ (.done ?_)
  · intro before after other _ shorter
    exact absurd shorter (Nat.not_lt_zero _)
  · rintro other ⟨_, _, rest, same⟩
    have length := congrArg List.length same
    simp only [List.length_append, List.length_nil] at length
    omega
  · rintro before after other same ⟨filled, _, rest, rfl⟩
    have length := congrArg List.length same
    have positive := List.length_pos_iff.mpr filled
    simp only [List.length_append, List.length_nil] at length
    omega

theorem slice_of_drop {start : Nat} {piece rest : List Char} (split : source.drop start = piece ++ rest) :
    Replacement.slice source.toArray ⟨start, start + piece.length⟩ = piece := by
  simp [Replacement.slice, split]

theorem find?_done {text : List Char} {origin : Nat} (split : source.drop origin = text)
    (nothing : ∀ before after body, text = before ++ after → ¬ Enclosed opening chars closing body after) :
    find? (between opening chars closing).program source.toArray origin = none := by
  refine Regex.find?_between_none fun start low body enclosed => ?_
  refine nothing (text.take (start - origin)) (text.drop (start - origin)) body ?_ ?_
  · rw [List.take_append_drop]
  · rw [← split, List.drop_drop, Nat.add_sub_cancel' low]
    exact enclosed

/-- The match of the next hole, with the body as its first group. -/
theorem find?_next {text gap body later : List Char} {origin : Nat} (split : source.drop origin = text)
    (whole : text = gap ++ (opening ++ body ++ closing ++ later))
    (earlier : ∀ before after other, text = before ++ after → before.length < gap.length →
      ¬ Enclosed opening chars closing other after)
    (nonempty : body ≠ []) (inside : ∀ c ∈ body, chars.has c = true)
    (longest : ∀ other, Enclosed opening chars closing other (opening ++ body ++ closing ++ later) →
      other.length ≤ body.length) :
    ∃ found, find? (between opening chars closing).program source.toArray origin = some found ∧
      found.span = ⟨origin + gap.length, origin + gap.length + (opening ++ body ++ closing).length⟩ ∧
      found.group? 1 = some ⟨origin + gap.length + opening.length,
        origin + gap.length + opening.length + body.length⟩ := by
  have here : source.drop (origin + gap.length) = opening ++ body ++ closing ++ later := by
    rw [← List.drop_drop, split, whole, List.drop_left]
  have before : ∀ position, origin ≤ position → position < origin + gap.length →
      ∀ other, ¬ Enclosed opening chars closing other (source.drop position) := by
    intro position above below other enclosed
    refine earlier (text.take (position - origin)) (text.drop (position - origin)) other ?_ ?_ ?_
    · rw [List.take_append_drop]
    · rw [List.length_take]
      omega
    · rw [← split, List.drop_drop, Nat.add_sub_cancel' above]
      exact enclosed
  have enclosed : Enclosed opening chars closing body (source.drop (origin + gap.length)) :=
    ⟨nonempty, inside, later, here⟩
  obtain ⟨found, success, span, group⟩ := Regex.find?_between_some (Nat.le_add_right origin gap.length)
    before enclosed (here ▸ longest)
  refine ⟨found, success, ?_, group⟩
  rw [span]
  simp only [List.length_append, ← Nat.add_assoc]

/-- The segments of a text with given holes that begins at a byte. -/
def assemble (opening closing : List Char) (position : Nat) :
    List (List Char × List Char) → List Char → Except TemplateError (List Segment)
  | [], last => .ok (literal position last)
  | (gap, body) :: holes, last =>
    let start := position + byteLength gap
    let stop := start + byteLength (opening ++ body ++ closing)
    match Expression.read body with
    | .error defect => .error (.ofDefect start defect)
    | .ok expression =>
      (assemble opening closing stop holes last).map fun later =>
        literal position gap ++ .placeholder ⟨start, stop, String.ofList body, expression⟩ :: later

variable {program : Array Regex.Instruction} {text : Array Char} {stop : Nat} {found : Match}

theorem matchesAfter_done (absent : find? program text stop = none) : matchesAfter program text stop = [] := by
  have nothing : findAfter? program text stop = none := by rw [findAfter?, absent]
  rw [matchesAfter]
  split
  · rfl
  · rename_i found success
    rw [nothing] at success
    cases success

theorem matchesAfter_next (success : find? program text stop = some found)
    (wide : found.span.start < found.span.stop) :
    matchesAfter program text stop = found :: matchesAfter program text found.span.stop := by
  have apart : found.span ≠ ⟨stop, stop⟩ := by
    intro same
    rw [same] at wide
    exact Nat.lt_irrefl _ wide
  have next : findAfter? program text stop = some found := by
    rw [findAfter?, success]
    exact if_neg apart
  rw [matchesAfter]
  split
  · rename_i absent
    rw [next] at absent
    cases absent
  · rename_i other again
    rw [next] at again
    cases again
    rfl

/-- The matches behind an offset give the segments that the holes behind it give. -/
theorem segmentsFrom_holes {text last : List Char} {holes : List (List Char × List Char)} {origin : Nat}
    (cut : Holes opening chars closing text holes last) (split : source.drop origin = text)
    (inside : origin ≤ source.length) (position : Nat) :
    segmentsFrom source.toArray origin position
        (matchesAfter (between opening chars closing).program source.toArray origin) =
      assemble opening closing position holes last := by
  induction cut generalizing origin position with
  | @done text nothing =>
    have length := congrArg List.length split
    rw [List.length_drop] at length
    have stop : source.toArray.size = origin + text.length := by
      rw [List.size_toArray]
      omega
    have rest : Replacement.slice source.toArray ⟨origin, origin + text.length⟩ = text :=
      slice_of_drop (split.trans (List.append_nil text).symm)
    rw [matchesAfter_done (find?_done split nothing), segmentsFrom, assemble, stop, rest]
  | @next text gap body later holes last whole earlier nonempty bodyInside longest _ ih =>
    obtain ⟨found, success, span, group⟩ := find?_next split whole earlier nonempty bodyInside longest
    have gapSplit := split.trans whole
    have here : source.drop (origin + gap.length) = (opening ++ body ++ closing) ++ later := by
      rw [← List.drop_drop, gapSplit, List.drop_left]
    have bodySplit : source.drop (origin + gap.length + opening.length) = body ++ (closing ++ later) := by
      rw [← List.drop_drop, here]
      simp
    have behind : source.drop found.span.stop = later := by
      rw [span, ← List.drop_drop, here, List.drop_left]
    have wide : origin + gap.length < origin + gap.length + (opening ++ body ++ closing).length := by
      have positive := List.length_pos_iff.mpr nonempty
      simp only [List.length_append]
      omega
    have raw : content source.toArray found = body := by
      rw [content, group]
      exact slice_of_drop bodySplit
    have room : found.span.stop ≤ source.length := by
      have size := congrArg List.length here
      have size' := congrArg List.length gapSplit
      rw [span]
      simp only [List.length_drop, List.length_append] at size size' ⊢
      omega
    rw [matchesAfter_next success (span ▸ wide), segmentsFrom, assemble]
    simp only [raw, span, slice_of_drop gapSplit, slice_of_drop here]
    cases Expression.read body with
    | error defect => rfl
    | ok expression =>
      simp only [← ih behind room, span]

/-- There is a match exactly when there is a hole, and no match is empty. -/
theorem find?_holes {text last : List Char} {holes : List (List Char × List Char)} {origin : Nat}
    (cut : Holes opening chars closing text holes last) (split : source.drop origin = text) :
    holes = [] ∧ find? (between opening chars closing).program source.toArray origin = none ∨
      holes ≠ [] ∧ ∃ found, find? (between opening chars closing).program source.toArray origin = some found ∧
        found.span.start < found.span.stop := by
  cases cut with
  | done nothing => exact .inl ⟨rfl, find?_done split nothing⟩
  | next whole earlier nonempty inside longest _ =>
    obtain ⟨found, success, span, _⟩ := find?_next split whole earlier nonempty inside longest
    have positive := List.length_pos_iff.mpr nonempty
    refine .inr ⟨List.cons_ne_nil _ _, found, success, ?_⟩
    rw [span]
    simp only [List.length_append]
    omega

/-- A source without holes stands for itself, and any other is cut at its holes. -/
theorem compile_holes {delimiter : Delimiter} {text : String} {holes : List (List Char × List Char)}
    {last : List Char} (program : delimiter.regex.program = (between opening chars closing).program)
    (cut : Holes opening chars closing text.toList holes last) (filters : FilterTable) :
    compile delimiter filters text =
      if holes = [] then .ok ⟨text, [], filters⟩
      else (assemble opening closing 0 holes last).map fun segments => ⟨text, segments, filters⟩ := by
  have segments := segmentsFrom_holes cut List.drop_zero (Nat.zero_le _) 0
  rw [compile, Regex.allMatches, program]
  rcases find?_holes cut List.drop_zero with ⟨empty, absent⟩ | ⟨nonempty, found, success, wide⟩
  · rw [matchesOf, absent, if_pos empty]
  · rw [matchesAfter_next success wide] at segments
    rw [matchesOf, success, if_neg nonempty, ← segments]

/-- A content between the two texts, with nothing around them, is one placeholder. -/
theorem compile_single {delimiter : Delimiter} {opening closing content : String} {expression : Expression}
    (program : delimiter.regex.program = (between opening.toList chars closing.toList).program)
    (nonempty : content ≠ "") (inside : ∀ c ∈ content.toList, chars.has c = true)
    (read : Expression.read content.toList = .ok expression) (filters : FilterTable) :
    compile delimiter filters (opening ++ content ++ closing) =
      .ok ⟨opening ++ content ++ closing,
        [.placeholder ⟨0, (opening ++ content ++ closing).utf8ByteSize, content, expression⟩], filters⟩ := by
  have cut : Holes opening.toList chars closing.toList (opening ++ content ++ closing).toList
      [([], content.toList)] [] := by
    rw [String.toList_append, String.toList_append]
    exact holes_single (by simpa using nonempty) inside
  rw [compile_holes program cut, Text.utf8ByteSize_eq]
  simp [assemble, read, literal, Except.map]

end TextTemplate.Template
