import TextTemplate.Proofs.Result
import TextTemplate.Proofs.Template.Holes
import TextTemplate.Template.Render

/-! What a compiled source shows of its holes: the places of its placeholders, and literals
that cover everything else and go unchanged into the output. -/
namespace TextTemplate.Template

open Regex (CharClass)
open Result (map_eq_ok)
open Text (byteLength)

theorem eq_nil_of_byteLength {text : List Char} (empty : byteLength text = 0) : text = [] := by
  cases text with
  | nil => rfl
  | cons c text =>
    have positive := Char.utf8Size_pos c
    rw [Text.byteLength_cons] at empty
    omega

/-- Of two beginnings of a text the one with fewer bytes is the beginning of the other. -/
theorem exists_gap {before before' after after' : List Char} (same : before ++ after = before' ++ after')
    (fewer : byteLength before ≤ byteLength before') : ∃ gap, before' = before ++ gap ∧ after = gap ++ after' := by
  rcases List.append_eq_append_iff.mp same with ⟨gap, longer, rest⟩ | ⟨gap, longer, rest⟩
  · exact ⟨gap, longer, rest⟩
  · rw [longer, Text.byteLength_append] at fewer
    obtain rfl := eq_nil_of_byteLength (by omega : byteLength gap = 0)
    exact ⟨[], by simpa using longer.symm, by simpa using rest.symm⟩

/-- A placeholder as the byte at which it starts, its content, and the byte behind it. -/
abbrev Place := Nat × List Char × Nat

def place (placeholder : Placeholder) : Place := (placeholder.start, placeholder.raw.toList, placeholder.stop)

def places (template : Template) : List Place := template.placeholders.map place

def placesFrom (opening closing : List Char) (position : Nat) : List (List Char × List Char) → List Place
  | [] => []
  | (gap, body) :: holes =>
    let start := position + byteLength gap
    let stop := start + byteLength (opening ++ body ++ closing)
    (start, body, stop) :: placesFrom opening closing stop holes

/-- Segments that cover a text from a byte on, a literal with the text it holds and a
placeholder with as many bytes as it spans. -/
inductive Covers : Nat → List Segment → List Char → Prop where
  | done : Covers position [] []
  | literal (rest : Covers (position + byteLength text) pieces later) :
      Covers position (.literal position (String.ofList text) :: pieces) (text ++ later)
  | placeholder {written : List Char} (starts : placeholder.start = position)
      (stops : placeholder.stop = position + byteLength written)
      (rest : Covers placeholder.stop pieces later) :
      Covers position (.placeholder placeholder :: pieces) (written ++ later)

/-- A layout written out: each gap, and each body between the two texts. -/
def written (opening closing : List Char) : List (List Char × List Char) → List Char → List Char
  | [], last => last
  | (gap, body) :: holes, last => gap ++ (opening ++ body ++ closing ++ written opening closing holes last)

/-- A layout with other texts in the place of its holes. -/
def filled : List (List Char × List Char) → List (List Char) → List Char → List Char
  | (gap, _) :: holes, value :: values, last => gap ++ (value ++ filled holes values last)
  | _, _, last => last

variable {opening closing : List Char} {chars : CharClass}

theorem Holes.written_eq (cut : Holes opening chars closing text holes last) :
    written opening closing holes last = text := by
  induction cut with
  | done => rfl
  | next whole _ _ _ _ _ ih => rw [written, ih, whole]

theorem covers_literal (rest : Covers (position + byteLength text) pieces later) :
    Covers position (literal position text ++ pieces) (text ++ later) := by
  unfold literal
  split
  · rename_i empty
    obtain rfl := List.isEmpty_iff.mp empty
    exact rest
  · exact .literal rest

def placeholder? : Segment → Option Placeholder
  | .literal _ _ => none
  | .placeholder placeholder => some placeholder

theorem placeholders_eq (template : Template) :
    template.placeholders = template.segments.filterMap placeholder? := rfl

theorem filterMap_literal (position : Nat) (text : List Char) (pieces : List Segment) :
    (literal position text ++ pieces).filterMap placeholder? = pieces.filterMap placeholder? := by
  unfold literal
  split
  · rfl
  · rfl

theorem filterMap_placeholder (placeholder : Placeholder) (pieces : List Segment) :
    (Segment.placeholder placeholder :: pieces).filterMap placeholder? =
      placeholder :: pieces.filterMap placeholder? := rfl

theorem assemble_next {gap body last : List Char} {holes : List (List Char × List Char)} {position : Nat}
    {pieces : List Segment}
    (success : assemble opening closing position ((gap, body) :: holes) last = .ok pieces) :
    ∃ expression later, Expression.read body = .ok expression ∧
      assemble opening closing (position + byteLength gap + byteLength (opening ++ body ++ closing)) holes last =
        .ok later ∧
      pieces = literal position gap ++ .placeholder ⟨position + byteLength gap,
        position + byteLength gap + byteLength (opening ++ body ++ closing), String.ofList body, expression⟩ ::
          later := by
  rw [assemble] at success
  split at success
  · cases success
  · rename_i expression read
    obtain ⟨later, rest, same⟩ := map_eq_ok.mp success
    exact ⟨expression, later, read, rest, same.symm⟩

theorem exists_assemble {last : List Char} {holes : List (List Char × List Char)}
    (readable : ∀ hole ∈ holes, ∃ expression, Expression.read hole.2 = .ok expression) (position : Nat) :
    ∃ pieces, assemble opening closing position holes last = .ok pieces := by
  induction holes generalizing position with
  | nil => exact ⟨_, rfl⟩
  | cons hole holes ih =>
    obtain ⟨gap, body⟩ := hole
    obtain ⟨expression, read⟩ := readable (gap, body) List.mem_cons_self
    obtain ⟨later, rest⟩ := ih (fun hole member => readable hole (List.mem_cons_of_mem _ member))
      (position + byteLength gap + byteLength (opening ++ body ++ closing))
    rw [assemble, read]
    exact ⟨_, map_eq_ok.mpr ⟨later, rest, rfl⟩⟩

theorem placeholders_assemble {last : List Char} {holes : List (List Char × List Char)} {position : Nat}
    {pieces : List Segment} (success : assemble opening closing position holes last = .ok pieces) :
    (pieces.filterMap placeholder?).map place = placesFrom opening closing position holes := by
  induction holes generalizing position pieces with
  | nil =>
    cases success
    have nothing := filterMap_literal position last []
    rw [List.append_nil] at nothing
    rw [nothing]
    rfl
  | cons hole holes ih =>
    obtain ⟨gap, body⟩ := hole
    obtain ⟨expression, later, _, rest, rfl⟩ := assemble_next success
    rw [filterMap_literal, filterMap_placeholder, List.map_cons, ih rest, placesFrom]
    simp [place]

theorem covers_assemble {last : List Char} {holes : List (List Char × List Char)} {position : Nat}
    {pieces : List Segment} (success : assemble opening closing position holes last = .ok pieces) :
    Covers position pieces (written opening closing holes last) := by
  induction holes generalizing position pieces with
  | nil =>
    cases success
    have covers : Covers position (literal position last ++ []) (last ++ []) := covers_literal .done
    rwa [List.append_nil, List.append_nil] at covers
  | cons hole holes ih =>
    obtain ⟨gap, body⟩ := hole
    obtain ⟨expression, later, _, rest, rfl⟩ := assemble_next success
    exact covers_literal (.placeholder rfl rfl (ih rest))

variable {find? : String → Option Filter} {data : Data}

theorem render_literal {position : Nat} {text : List Char} {pieces : List Segment} {output : String}
    (rendered : renderSegments find? data (literal position text ++ pieces) = .ok output) :
    ∃ later, renderSegments find? data pieces = .ok later ∧ output.toList = text ++ later.toList := by
  unfold literal at rendered
  split at rendered
  · rename_i empty
    obtain rfl := List.isEmpty_iff.mp empty
    exact ⟨output, rendered, rfl⟩
  · rw [List.singleton_append, renderSegments] at rendered
    obtain ⟨later, rest, rfl⟩ := map_eq_ok.mp rendered
    exact ⟨later, rest, by rw [String.toList_append, String.toList_ofList]⟩

/-- The gaps of a layout stand in the output as they are, with a text for each hole between them. -/
theorem render_assemble {last : List Char} {holes : List (List Char × List Char)} {position : Nat}
    {pieces : List Segment} {output : String} (success : assemble opening closing position holes last = .ok pieces)
    (rendered : renderSegments find? data pieces = .ok output) :
    ∃ values, values.length = holes.length ∧ output.toList = filled holes values last := by
  induction holes generalizing position pieces output with
  | nil =>
    cases success
    rw [← List.append_nil (literal position last)] at rendered
    obtain ⟨later, rest, same⟩ := render_literal rendered
    cases rest
    exact ⟨[], rfl, same.trans (List.append_nil last)⟩
  | cons hole holes ih =>
    obtain ⟨gap, body⟩ := hole
    obtain ⟨expression, later, _, assembled, rfl⟩ := assemble_next success
    obtain ⟨middle, rest, same⟩ := render_literal rendered
    rw [renderSegments] at rest
    split at rest
    · cases rest
    · rename_i value evaluated
      obtain ⟨end', onward, rfl⟩ := map_eq_ok.mp rest
      obtain ⟨values, size, filledEq⟩ := ih assembled onward
      refine ⟨value.text.toList :: values, by simp [size], ?_⟩
      rw [same, String.toList_append, filledEq, filled]

/-- A template shows a layout: its placeholders are the holes, its segments cover the source,
and the gaps survive into every output. -/
structure Shows (template : Template) (opening closing : List Char) (holes : List (List Char × List Char))
    (last : List Char) : Prop where
  places : template.places = placesFrom opening closing 0 holes
  covers : template.isStatic = true ∨ Covers 0 template.segments template.source.toList
  survive : ∀ callFilters registry data output, template.renderWith callFilters registry data = .ok output →
    ∃ values, values.length = holes.length ∧ output.toList = filled holes values last

theorem exists_compile {delimiter : Delimiter} {text : String} {holes : List (List Char × List Char)}
    {last : List Char} (program : delimiter.regex.program = (Regex.between opening chars closing).program)
    (cut : Holes opening chars closing text.toList holes last)
    (readable : ∀ hole ∈ holes, ∃ expression, Expression.read hole.2 = .ok expression) (filters : FilterTable) :
    ∃ template, compile delimiter filters text = .ok template := by
  rw [compile_holes program cut]
  split
  · exact ⟨_, rfl⟩
  · obtain ⟨pieces, success⟩ := exists_assemble readable 0
    exact ⟨_, map_eq_ok.mpr ⟨pieces, success, rfl⟩⟩

theorem shows_of_compile {delimiter : Delimiter} {text : String} {holes : List (List Char × List Char)}
    {last : List Char} {filters : FilterTable} {template : Template}
    (program : delimiter.regex.program = (Regex.between opening chars closing).program)
    (cut : Holes opening chars closing text.toList holes last)
    (compiled : compile delimiter filters text = .ok template) :
    template.source = text ∧ template.Shows opening closing holes last := by
  rw [compile_holes program cut] at compiled
  split at compiled
  · rename_i empty
    subst empty
    cases compiled
    refine ⟨rfl, rfl, .inl rfl, ?_⟩
    intro callFilters registry data output rendered
    cases rendered
    exact ⟨[], rfl, cut.written_eq.symm⟩
  · rename_i nonempty
    obtain ⟨pieces, success, rfl⟩ := map_eq_ok.mp compiled
    refine ⟨rfl, ?_, .inr ?_, ?_⟩
    · rw [Template.places, placeholders_eq]
      exact placeholders_assemble success
    · rw [← cut.written_eq]
      exact covers_assemble success
    · intro callFilters registry data output rendered
      rw [renderWith] at rendered
      split at rendered
      · rename_i static
        obtain rfl : pieces = [] := List.isEmpty_iff.mp static
        have nothing := placeholders_assemble success
        cases holes with
        | nil => exact absurd rfl nonempty
        | cons hole holes => cases nothing
      · exact render_assemble success rendered

end TextTemplate.Template
