import TextTemplate.Proofs.Template.Rendering

/-! The segments of a compiled source cut it into pieces under any delimiter: they follow one
another from its first byte to its last, every cut is a character boundary, and when each
placeholder stands for what it spans the source comes out again. -/
namespace TextTemplate

def Segment.start : Segment → Nat
  | .literal start _ => start
  | .placeholder held => held.start

def Segment.stop : Segment → Nat
  | .literal start text => start + text.utf8ByteSize
  | .placeholder held => held.stop

namespace Template

open Regex (Match)
open Replacement (slice)
open Text (byteLength Rest Slice)

/-- Segments that follow one another from a byte to another, each from where the one before it ends. -/
def Contiguous (start : Nat) : List Segment → Nat → Prop
  | [], stop => start = stop
  | piece :: rest, stop => piece.start = start ∧ Contiguous piece.stop rest stop

/-- A segment that is a piece of a source. A literal is the text that it holds. -/
def Cuts (source : String) : Segment → Prop
  | .literal start text => Slice source start (start + text.utf8ByteSize) text
  | .placeholder placeholder => ∃ text, Slice source placeholder.start placeholder.stop text

/-- A placeholder that begins farther on than another and does not overlap it. -/
structure Follows (first second : Placeholder) : Prop where
  starts : first.start < second.start
  apart : first.stop ≤ second.start

/-- A source in segments: all of it, in pieces of it, with no literal empty or next to another. -/
structure Partition (source : String) (pieces : List Segment) : Prop where
  contiguous : Contiguous 0 pieces source.utf8ByteSize
  cuts : ∀ piece ∈ pieces, Cuts source piece
  spaced : Spaced pieces

/-- A placeholder that stands for what it spans. -/
def Restores (find? : String → Option Filter) (data : Data) (source : String) (placeholder : Placeholder) : Prop :=
  ∃ value, evaluate find? data placeholder = .ok value ∧
    Slice source placeholder.start placeholder.stop value.text

/-- What a template is to its source under a pattern. -/
structure Divides (regex : Regex) (source : String) (template : Template) : Prop where
  kept : template.source = source
  static : template.isStatic = true ↔ template.placeholders = []
  unmatched : template.placeholders = [] ↔ Regex.find? regex.program source.toList.toArray 0 = none
  partition : template.isStatic = false → Partition source template.segments
  shown : List.Forall₂ (Shown source) template.placeholders (regex.allMatches source.toList.toArray)
  follows : template.placeholders.Pairwise Follows
  restored : ∀ callFilters registry data,
    (∀ placeholder ∈ template.placeholders,
      Restores (template.resolve callFilters registry) data source placeholder) →
    template.renderWith callFilters registry data = .ok source

variable {source : String} {pieces : List Segment} {later : List Char}

theorem Covers.contiguous (covers : Covers position pieces later) :
    Contiguous position pieces (position + byteLength later) := by
  induction covers with
  | done => rfl
  | literal rest ih =>
    refine ⟨rfl, ?_⟩
    rw [Segment.stop, Text.utf8ByteSize_ofList, Text.byteLength_append, ← Nat.add_assoc]
    exact ih
  | placeholder starts stops rest ih =>
    refine ⟨starts, ?_⟩
    rw [Text.byteLength_append, ← Nat.add_assoc, ← stops]
    exact ih

theorem Covers.cuts (covers : Covers position pieces later) (rest : Rest source position later) :
    ∀ piece ∈ pieces, Cuts source piece := by
  induction covers with
  | done => simp
  | @literal position text _ _ covers ih =>
    refine List.forall_mem_cons.mpr ⟨?_, ih rest.skip⟩
    rw [Cuts, Text.utf8ByteSize_ofList]
    exact rest.slice
  | @placeholder _ _ _ _ written starts stops covers ih =>
    refine List.forall_mem_cons.mpr ⟨⟨String.ofList written, ?_⟩, ih (stops ▸ rest.skip)⟩
    rw [starts, stops]
    exact rest.slice

/-- When every placeholder stands for what it spans, the text comes out as it was. -/
theorem Covers.restored {find? : String → Option Filter} {data : Data} (covers : Covers position pieces later)
    (rest : Rest source position later)
    (own : ∀ placeholder ∈ pieces.filterMap placeholder?, Restores find? data source placeholder) :
    renderSegments find? data pieces = .ok (String.ofList later) := by
  induction covers with
  | done => rfl
  | literal covers ih =>
    rw [renderSegments, ih rest.skip own, String.ofList_append]
    rfl
  | placeholder starts stops covers ih =>
    rw [filterMap_placeholder] at own
    obtain ⟨⟨value, evaluated, spanned⟩, own⟩ := List.forall_mem_cons.mp own
    rw [starts, stops] at spanned
    rw [renderSegments, evaluated, ih (stops ▸ rest.skip) own, String.ofList_append, ← spanned.unique rest.slice]
    rfl

theorem byteAt_strict {text : List Char} {start stop : Nat} (ordered : start < stop) (inside : stop ≤ text.length) :
    byteAt text start < byteAt text stop := by
  have sum : byteAt text start + _ = byteAt text stop := byteAt_slice (Nat.le_of_lt ordered)
  have nonempty : byteLength (slice text.toArray ⟨start, stop⟩) ≠ 0 := by
    intro empty
    have nothing := congrArg List.length (eq_nil_of_byteLength empty)
    rw [slice_toArray, List.length_take, List.length_drop, List.length_nil] at nothing
    omega
  omega

theorem Shown.follows {first second : Placeholder} {found next : Match} (shown : Shown source first found)
    (other : Shown source second next) (before : found.Before next) (proper : next.Proper source.toList.length) :
    Follows first second := by
  refine ⟨?_, ?_⟩
  · rw [shown.start, other.start]
    exact byteAt_strict before.starts (Nat.le_trans proper.ordered proper.inside)
  · rw [shown.stop, other.start]
    exact byteAt_mono before.apart

theorem pairwise_follows {placeholders : List Placeholder} {found : List Match} {offset : Nat}
    (shown : List.Forall₂ (Shown source) placeholders found) (row : Row source.toList.length offset found) :
    placeholders.Pairwise Follows := by
  induction shown generalizing offset with
  | nil => exact .nil
  | @cons placeholder here placeholders found own rest ih =>
    refine List.pairwise_cons.mpr ⟨fun other member => ?_, ih row.tail⟩
    obtain ⟨next, present, shown⟩ := exists_shown rest other member
    have before := (List.pairwise_cons.mp row.row).1 next present
    exact own.follows shown before (row.proper next (List.mem_cons_of_mem _ present))

theorem compile_divides {delimiter : Delimiter} {filters : FilterTable} {template : Template}
    (compiled : compile delimiter filters source = .ok template) : Divides delimiter.regex source template := by
  have shown := shown_of_compile compiled
  obtain ⟨rfl, _, ⟨nothing, static⟩ | ⟨something, success⟩⟩ := of_compile compiled
  · have absent : template.placeholders = [] := by rw [placeholders_eq, static, List.filterMap_nil]
    have still : template.isStatic = true := by rw [isStatic, static, List.isEmpty_nil]
    refine ⟨rfl, iff_of_true still absent, ?_, fun moving => ?_, shown, ?_, ?_⟩
    · exact iff_of_true absent (Regex.matchesOf_eq_nil.mp nothing)
    · rw [still] at moving
      cases moving
    · rw [absent]
      exact .nil
    · intro callFilters registry data _
      rw [renderWith, if_pos still]
  · have row := row_matchesOf delimiter.regex.program template.source.toList.toArray
    have covers : Covers 0 template.segments template.source.toList := covers_segmentsFrom row success
    have present : template.placeholders ≠ [] := by
      intro absent
      rw [absent] at shown
      exact something (List.forall₂_nil_left_iff.mp shown)
    have moving : template.isStatic ≠ true := by
      intro still
      rw [placeholders_eq, List.isEmpty_iff.mp still] at present
      exact present rfl
    refine ⟨rfl, iff_of_false moving present, ?_, fun _ => ⟨?_, ?_, ?_⟩, shown, pairwise_follows shown row, ?_⟩
    · exact iff_of_false present (mt Regex.matchesOf_eq_nil.mpr something)
    · have contiguous := covers.contiguous
      rwa [Nat.zero_add, ← Text.utf8ByteSize_eq] at contiguous
    · exact covers.cuts (Text.rest_all _)
    · exact spaced_segmentsFrom success
    · intro callFilters registry data own
      rw [renderWith, if_neg moving, covers.restored (Text.rest_all _) own, String.ofList_toList]

private theorem exists_optional : ∃ delimiter, Delimiter.ofPattern "(x)?" = .ok delimiter ∧
    compile delimiter ∅ "éx" = .ok ⟨"éx", [.placeholder ⟨0, 0, "", ⟨"", []⟩⟩, .literal 0 "é",
      .placeholder ⟨2, 3, "x", ⟨"x", []⟩⟩], ∅⟩ := by
  have read : Regex.Pattern.read {} "(x)?".toList = .ok (.loop true 0 (some 1) (.group 1 (.set (.single 'x')))) := rfl
  let optional := Regex.ofPattern "(x)?" (.loop true 0 (some 1) (.group 1 (.set (.single 'x'))))
  refine ⟨⟨optional, by decide⟩, ?_, ?_⟩
  · rw [Delimiter.ofPattern, Regex.compile, read]
    exact dif_pos (by decide)
  · exact compile_of_segments (by decide +kernel)

/-- Matches that are empty, or whose group took no part, are cut out like any other. -/
theorem compile_divides_empty_match : ∃ delimiter template, Delimiter.ofPattern "(x)?" = .ok delimiter ∧
    compile delimiter ∅ "éx" = .ok template ∧
      template.segments.map (fun piece => (piece.start, piece.stop)) = [(0, 0), (0, 2), (2, 3)] ∧
        Divides delimiter.regex "éx" template := by
  obtain ⟨delimiter, optional, compiled⟩ := exists_optional
  exact ⟨delimiter, _, optional, compiled, by decide, compile_divides compiled⟩

end Template

end TextTemplate
