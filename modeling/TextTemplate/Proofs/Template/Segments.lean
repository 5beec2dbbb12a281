import Mathlib.Data.List.Chain
import Mathlib.Data.List.Forall2
import TextTemplate.Proofs.Regex.Succession
import TextTemplate.Proofs.Template.Places
import TextTemplate.Proofs.Text.Bytes

/-! What compiling makes of a source under any delimiter. The segments cover the source, no
literal is empty or meets another, and the placeholders show the matches one by one. -/
namespace TextTemplate.Template

open Regex (Match matchesOf)
open Replacement (slice)
open Result (map_eq_ok)
open Text (byteLength Rest Slice)

/-- The byte at which the character with an index begins. -/
def byteAt (source : List Char) (index : Nat) : Nat := byteLength (source.take index)

/-- A placeholder shows a match: it spans the bytes of the match, and what stands in it is the
first group, which lies inside the placeholder, or nothing when the group took no part. -/
structure Shown (source : String) (placeholder : Placeholder) (found : Match) : Prop where
  start : placeholder.start = byteAt source.toList found.span.start
  stop : placeholder.stop = byteAt source.toList found.span.stop
  group : ∀ span, found.group? 1 = some span →
    placeholder.start ≤ byteAt source.toList span.start ∧ byteAt source.toList span.stop ≤ placeholder.stop ∧
      Slice source (byteAt source.toList span.start) (byteAt source.toList span.stop) placeholder.raw
  absent : found.group? 1 = none → placeholder.raw = ""
  expression : (Expression.read placeholder.raw.toList).mapError (TemplateError.ofDefect placeholder.start) =
    .ok placeholder.expression

variable {source : List Char}

theorem slice_toArray (source : List Char) (start stop : Nat) :
    slice source.toArray ⟨start, stop⟩ = (source.drop start).take (stop - start) := by
  simp [slice]

theorem slice_drop {start stop : Nat} (ordered : start ≤ stop) :
    slice source.toArray ⟨start, stop⟩ ++ source.drop stop = source.drop start := by
  rw [slice_toArray]
  have rest : source.drop stop = (source.drop start).drop (stop - start) := by
    rw [List.drop_drop, Nat.add_sub_cancel' ordered]
  rw [rest, List.take_append_drop]

theorem byteAt_slice {start stop : Nat} (ordered : start ≤ stop) :
    byteAt source start + byteLength (slice source.toArray ⟨start, stop⟩) = byteAt source stop := by
  have whole (index : Nat) : source.take index = slice source.toArray ⟨0, index⟩ := by
    rw [slice_toArray, List.drop_zero, Nat.sub_zero]
  rw [byteAt, byteAt, ← Text.byteLength_append, whole, whole,
    Replacement.slice_append _ (Nat.zero_le _) ordered]

theorem byteAt_mono {start stop : Nat} (ordered : start ≤ stop) : byteAt source start ≤ byteAt source stop := by
  have sum : byteAt source start + _ = byteAt source stop := byteAt_slice ordered
  omega

theorem rest_byteAt (source : String) (index : Nat) :
    Rest source (byteAt source.toList index) (source.toList.drop index) :=
  ⟨source.toList.take index, (List.take_append_drop _ _).symm, rfl⟩

/-- The first match gives a literal for the gap before it, unless that is empty, and a placeholder. -/
theorem segmentsFrom_next {text : Array Char} {offset position : Nat} {found : Match} {rest : List Match}
    {pieces : List Segment} (success : segmentsFrom text offset position (found :: rest) = .ok pieces) :
    ∃ gap start stop expression later, gap = slice text ⟨offset, found.span.start⟩ ∧
      start = position + byteLength gap ∧ stop = start + byteLength (slice text found.span) ∧
      Expression.read (content text found) = .ok expression ∧
      segmentsFrom text found.span.stop stop rest = .ok later ∧
      pieces = literal position gap ++
        .placeholder ⟨start, stop, String.ofList (content text found), expression⟩ :: later := by
  rw [segmentsFrom] at success
  split at success
  · cases success
  · rename_i expression read
    obtain ⟨later, rest, same⟩ := map_eq_ok.mp success
    exact ⟨_, _, _, expression, later, rfl, rfl, rfl, read, rest, same.symm⟩

/-- Matches that stand in a row behind an offset of a text. -/
structure Row (size offset : Nat) (found : List Match) : Prop where
  inside : offset ≤ size
  behind : ∀ here ∈ found, offset ≤ here.span.start
  proper : ∀ here ∈ found, here.Proper size
  row : found.Pairwise Match.Before

theorem Row.tail {size offset : Nat} {found : Match} {rest : List Match} (row : Row size offset (found :: rest)) :
    Row size found.span.stop rest := by
  obtain ⟨before, later⟩ := List.pairwise_cons.mp row.row
  exact ⟨(row.proper found List.mem_cons_self).inside, fun here member => (before here member).apart,
    fun here member => row.proper here (List.mem_cons_of_mem _ member), later⟩

theorem Row.sublist {size offset : Nat} {found part : List Match} (row : Row size offset found)
    (fewer : part.Sublist found) : Row size offset part :=
  ⟨row.inside, fun here member => row.behind here (fewer.subset member),
    fun here member => row.proper here (fewer.subset member), row.row.sublist fewer⟩

theorem row_matchesOf (program : Array Regex.Instruction) (text : Array Char) :
    Row text.size 0 (matchesOf program text) := by
  obtain ⟨proper, row⟩ := Regex.matchesOf_row program text
  exact ⟨Nat.zero_le _, fun _ _ => Nat.zero_le _, proper, row⟩

theorem segments_next {offset : Nat} {found : Match} {rest : List Match} {pieces : List Segment}
    (row : Row source.length offset (found :: rest))
    (success : segmentsFrom source.toArray offset (byteAt source offset) (found :: rest) = .ok pieces) :
    ∃ expression later, Expression.read (content source.toArray found) = .ok expression ∧
      segmentsFrom source.toArray found.span.stop (byteAt source found.span.stop) rest = .ok later ∧
      pieces = literal (byteAt source offset) (slice source.toArray ⟨offset, found.span.start⟩) ++
        .placeholder ⟨byteAt source found.span.start, byteAt source found.span.stop,
          String.ofList (content source.toArray found), expression⟩ :: later := by
  obtain ⟨gap, start, stop, expression, later, rfl, rfl, rfl, read, onward, same⟩ := segmentsFrom_next success
  have ordered := (row.proper found List.mem_cons_self).ordered
  rw [byteAt_slice (row.behind found List.mem_cons_self), byteAt_slice ordered] at onward same
  exact ⟨expression, later, read, onward, same⟩

theorem covers_segmentsFrom {offset : Nat} {found : List Match} {pieces : List Segment}
    (row : Row source.length offset found)
    (success : segmentsFrom source.toArray offset (byteAt source offset) found = .ok pieces) :
    Covers (byteAt source offset) pieces (source.drop offset) := by
  induction found generalizing offset pieces with
  | nil =>
    cases success
    have whole : _ ++ source.drop source.length = source.drop offset := slice_drop row.inside
    rw [List.drop_length] at whole
    rw [← List.append_nil (literal _ _), ← whole]
    exact covers_literal .done
  | cons found rest ih =>
    obtain ⟨expression, later, _, onward, rfl⟩ := segments_next row success
    have behind := row.behind found List.mem_cons_self
    have ordered := (row.proper found List.mem_cons_self).ordered
    rw [← slice_drop behind, ← slice_drop ordered]
    refine covers_literal (.placeholder ?_ ?_ (ih row.tail onward))
    · exact (byteAt_slice behind).symm
    · rw [byteAt_slice behind]
      exact (byteAt_slice ordered).symm

/-- The first group of a match, in bytes. -/
theorem slice_content {source : String} {found : Match} {span : Regex.Span}
    (proper : found.Proper source.toList.length) (present : found.group? 1 = some span) :
    Slice source (byteAt source.toList span.start) (byteAt source.toList span.stop)
      (String.ofList (content source.toList.toArray found)) := by
  have bounds := proper.groups.span? (show found.trail.span? 1 = some span from present)
  have rest := rest_byteAt source span.start
  rw [← slice_drop bounds.2.1] at rest
  rw [content, present, ← byteAt_slice bounds.2.1]
  exact rest.slice

theorem shown_content {source : String} {found : Match} {expression : Expression}
    (proper : found.Proper source.toList.length)
    (read : Expression.read (content source.toList.toArray found) = .ok expression) :
    Shown source ⟨byteAt source.toList found.span.start, byteAt source.toList found.span.stop,
      String.ofList (content source.toList.toArray found), expression⟩ found := by
  refine ⟨rfl, rfl, fun span present => ?_, fun absent => ?_, ?_⟩
  · have bounds := proper.groups.span? (show found.trail.span? 1 = some span from present)
    exact ⟨byteAt_mono bounds.1, byteAt_mono bounds.2.2, slice_content proper present⟩
  · rw [content, absent]
  · rw [String.toList_ofList, read]
    rfl

theorem Shown.raw_eq {source : String} {placeholder : Placeholder} {found : Match}
    (shown : Shown source placeholder found) (proper : found.Proper source.toList.length) :
    placeholder.raw = String.ofList (content source.toList.toArray found) := by
  cases present : found.group? 1 with
  | none => rw [shown.absent present, content, present]
  | some span => exact (shown.group span present).2.2.unique (slice_content proper present)

theorem shown_segmentsFrom {source : String} {offset : Nat} {found : List Match} {pieces : List Segment}
    (row : Row source.toList.length offset found)
    (success : segmentsFrom source.toList.toArray offset (byteAt source.toList offset) found = .ok pieces) :
    List.Forall₂ (Shown source) (pieces.filterMap placeholder?) found := by
  induction found generalizing offset pieces with
  | nil =>
    cases success
    rw [← List.append_nil (literal _ _), filterMap_literal]
    exact .nil
  | cons found rest ih =>
    obtain ⟨expression, later, read, onward, rfl⟩ := segments_next row success
    rw [filterMap_literal, filterMap_placeholder]
    exact .cons (shown_content (row.proper found List.mem_cons_self) read) (ih row.tail onward)

theorem exists_shown {source : String} {placeholders : List Placeholder} {found : List Match}
    (shown : List.Forall₂ (Shown source) placeholders found) :
    ∀ placeholder ∈ placeholders, ∃ here ∈ found, Shown source placeholder here := by
  induction shown with
  | nil => simp
  | @cons placeholder here placeholders found own _ ih =>
    refine List.forall_mem_cons.mpr ⟨⟨here, List.mem_cons_self, own⟩, fun other member => ?_⟩
    obtain ⟨next, present, shown⟩ := ih other member
    exact ⟨next, List.mem_cons_of_mem _ present, shown⟩

/-- Segments in which no literal is empty and none stands next to another. -/
structure Spaced (pieces : List Segment) : Prop where
  nonempty : ∀ start text, .literal start text ∈ pieces → text ≠ ""
  apart : pieces.IsChain fun first second => (placeholder? first).isSome ∨ (placeholder? second).isSome

theorem spaced_literal (position : Nat) (text : List Char) : Spaced (literal position text) := by
  unfold literal
  split
  · exact ⟨fun _ _ member => (List.not_mem_nil member).elim, .nil⟩
  · rename_i nonempty
    refine ⟨fun start other member => ?_, .singleton _⟩
    cases List.mem_singleton.mp member
    exact fun empty => nonempty (List.isEmpty_iff.mpr (String.ofList_eq_empty_iff.mp empty))

theorem Spaced.placeholder {before after : List Segment} {placeholder : Placeholder} (left : Spaced before)
    (right : Spaced after) : Spaced (before ++ .placeholder placeholder :: after) := by
  refine ⟨fun start text member => ?_, left.apart.append (right.apart.cons ?_) ?_⟩
  · rcases List.mem_append.mp member with member | member
    · exact left.nonempty start text member
    · exact right.nonempty start text ((List.mem_cons.mp member).resolve_left (by simp))
  · exact fun _ _ => .inl rfl
  · rintro _ _ _ ⟨⟩
    exact .inr rfl

theorem spaced_segmentsFrom {text : Array Char} {offset position : Nat} {found : List Match}
    {pieces : List Segment} (success : segmentsFrom text offset position found = .ok pieces) : Spaced pieces := by
  induction found generalizing offset position pieces with
  | nil =>
    cases success
    exact spaced_literal _ _
  | cons found rest ih =>
    obtain ⟨gap, start, stop, expression, later, _, _, _, _, onward, rfl⟩ := segmentsFrom_next success
    exact (spaced_literal position gap).placeholder (ih onward)

/-- A template keeps its source and its filters. It has no segments when nothing matches, and
else those that the matches give. -/
theorem of_compile {delimiter : Delimiter} {filters : FilterTable} {source : String} {template : Template}
    (compiled : compile delimiter filters source = .ok template) :
    template.source = source ∧ template.filters = filters ∧
      (matchesOf delimiter.regex.program source.toList.toArray = [] ∧ template.segments = [] ∨
        matchesOf delimiter.regex.program source.toList.toArray ≠ [] ∧
          segmentsFrom source.toList.toArray 0 0 (matchesOf delimiter.regex.program source.toList.toArray) =
            .ok template.segments) := by
  simp only [compile, Regex.allMatches] at compiled
  split at compiled
  · rename_i nothing
    cases compiled
    exact ⟨rfl, rfl, .inl ⟨nothing, rfl⟩⟩
  · rename_i something
    obtain ⟨pieces, success, rfl⟩ := map_eq_ok.mp compiled
    exact ⟨rfl, rfl, .inr ⟨something, success⟩⟩

/-- Once the segments of a source are known, so is its template. -/
theorem compile_of_segments {delimiter : Delimiter} {filters : FilterTable} {source : String} {pieces : List Segment}
    (cut : (compile delimiter filters source).map Template.segments = .ok pieces) :
    compile delimiter filters source = .ok ⟨source, pieces, filters⟩ := by
  obtain ⟨template, compiled, rfl⟩ := map_eq_ok.mp cut
  obtain ⟨rfl, rfl, _⟩ := of_compile compiled
  exact compiled

theorem covers_of_compile {delimiter : Delimiter} {filters : FilterTable} {source : String} {template : Template}
    (compiled : compile delimiter filters source = .ok template) :
    template.segments = [] ∨ Covers 0 template.segments source.toList := by
  obtain ⟨_, _, ⟨_, static⟩ | ⟨_, success⟩⟩ := of_compile compiled
  · exact .inl static
  · exact .inr (covers_segmentsFrom (row_matchesOf _ _) success)

theorem shown_of_compile {delimiter : Delimiter} {filters : FilterTable} {source : String} {template : Template}
    (compiled : compile delimiter filters source = .ok template) :
    List.Forall₂ (Shown source) template.placeholders (delimiter.regex.allMatches source.toList.toArray) := by
  obtain ⟨_, _, ⟨nothing, static⟩ | ⟨_, success⟩⟩ := of_compile compiled
  · rw [placeholders_eq, static, Regex.allMatches, nothing]
    exact .nil
  · exact shown_segmentsFrom (row_matchesOf _ _) success

end TextTemplate.Template
