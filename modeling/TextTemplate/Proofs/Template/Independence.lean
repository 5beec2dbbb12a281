import TextTemplate.Proofs.Data.Silence
import TextTemplate.Proofs.Expression.Acceptance
import TextTemplate.Proofs.Template.Rendering

/-! What a rendering takes from its data. It reads the keys that stand in the source and nothing
else, and it reads each of them as a value: a key of which the data have nothing to tell is an empty string
to every filter. -/
namespace TextTemplate

/-- Data that answer one key in another way. -/
def Data.answering (data : Data) (key : String) (answer : Option Value) : Data :=
  fun other => if other = key then answer else data other

namespace Template

open Data (Origin Silent)
open Expression.Pipeline (IsCut)
open Regex (Match)
open Result (mapError_eq_ok)
open Text (trim)

/-- A key is written in a source when a match has it, between blanks, before the first pipe of its content. -/
def Written (delimiter : Delimiter) (source key : String) : Prop :=
  ∃ found ∈ delimiter.regex.allMatches source.toList.toArray, ∃ first later,
    IsCut .outside (content source.toList.toArray found) first later ∧ key = String.ofList (trim first)

def keys (template : Template) : List String := template.placeholders.map (·.expression.key)

variable {delimiter : Delimiter} {filters callFilters : FilterTable} {registry : Registry} {source : String}
variable {template : Template} {first second : Data}

def keyOf (content : List Char) : String := String.ofList (trim (Expression.Pipeline.split content).1)

theorem Shown.key_eq {placeholder : Placeholder} {found : Match} (shown : Shown source placeholder found)
    (proper : found.Proper source.toList.length) :
    placeholder.expression.key = keyOf (content source.toList.toArray found) := by
  have read := mapError_eq_ok.mp shown.expression
  rw [shown.raw_eq proper, String.toList_ofList] at read
  obtain ⟨calls, _, same⟩ := Expression.read_eq_ok.mp read
  rw [← same, keyOf]

theorem keys_of_shown {placeholders : List Placeholder} {found : List Match} {offset : Nat}
    (shown : List.Forall₂ (Shown source) placeholders found) (row : Row source.toList.length offset found) :
    placeholders.map (·.expression.key) = found.map (keyOf <| content source.toList.toArray ·) := by
  induction shown generalizing offset with
  | nil => rfl
  | @cons placeholder here placeholders found own rest ih =>
    rw [List.map_cons, List.map_cons, own.key_eq (row.proper here List.mem_cons_self), ih row.tail]

theorem mem_keys_iff (compiled : compile delimiter filters source = .ok template) (key : String) :
    key ∈ template.keys ↔ Written delimiter source key := by
  rw [keys, keys_of_shown (shown_of_compile compiled) (row_matchesOf _ _), List.mem_map]
  constructor
  · rintro ⟨found, member, rfl⟩
    exact ⟨found, member, _, _, Expression.Pipeline.split_eq_iff.mp rfl, rfl⟩
  · rintro ⟨found, member, before, later, cut, rfl⟩
    refine ⟨found, member, ?_⟩
    rw [keyOf, Expression.Pipeline.split_eq_iff.mpr cut]

/-- A chain of filters starts from the value that is read, and sees no more of the data. -/
theorem evaluate_congr (find? : String → Option Filter) {placeholder : Placeholder}
    (agree : first.read placeholder.expression.key = second.read placeholder.expression.key) :
    evaluate find? first placeholder = evaluate find? second placeholder :=
  congrArg (fun value => applyCalls find? placeholder.start value placeholder.expression.calls) agree

theorem renderWith_congr (callFilters : FilterTable) (registry : Registry)
    (agree : ∀ key ∈ template.keys, first.read key = second.read key) :
    template.renderWith callFilters registry first = template.renderWith callFilters registry second := by
  rw [renderWith, renderWith]
  by_cases static : template.isStatic = true
  · rw [if_pos static, if_pos static]
  · rw [if_neg static, if_neg static]
    apply renderSegments_congr
    intro placeholder member
    have own := agree placeholder.expression.key (List.mem_map_of_mem member)
    rw [evaluate_congr _ own]

/-- Sources of data that agree on the keys written in a template, with nothing read as an empty string, render it
alike, whatever filters it is given; those that are silent about the key of a placeholder are alike to its filters.
A key that is not written in the template has no influence, though the data may bring it into the text. -/
theorem renderWith_agreeing (compiled : compile delimiter filters source = .ok template) :
    (∀ key, key ∈ template.keys ↔ Written delimiter source key) ∧
    (∀ first second : Origin,
      (∀ key, Written delimiter source key → first.data.read key = second.data.read key) →
        ∀ callFilters registry,
          template.renderWith callFilters registry first.data = template.renderWith callFilters registry second.data ∧
          template.render registry first.data = template.render registry second.data) ∧
    (∀ (origin : Origin) key, origin.data.read key = .str "" ↔ Silent key origin) ∧
    (∀ (first second : Origin) (placeholder : Placeholder),
      Silent placeholder.expression.key first → Silent placeholder.expression.key second →
        ∀ find?, evaluate find? first.data placeholder = evaluate find? second.data placeholder) ∧
    ∀ (data : Data) key answer, ¬ Written delimiter source key → ∀ callFilters registry,
      template.renderWith callFilters registry (data.answering key answer) =
          template.renderWith callFilters registry data ∧
        template.render registry (data.answering key answer) = template.render registry data := by
  have alike {first second : Data}
      (agree : ∀ key, Written delimiter source key → first.read key = second.read key)
      (callFilters : FilterTable) (registry : Registry) :
      template.renderWith callFilters registry first = template.renderWith callFilters registry second :=
    renderWith_congr callFilters registry fun key member => agree key ((mem_keys_iff compiled key).mp member)
  refine ⟨mem_keys_iff compiled, ?_, fun _ _ => Data.read_eq_empty, ?_, ?_⟩
  · intro first second agree callFilters registry
    exact ⟨alike agree callFilters registry, alike agree ∅ registry⟩
  · intro first second placeholder silent still find?
    apply evaluate_congr
    rw [Data.read_eq_empty.mpr silent, Data.read_eq_empty.mpr still]
  · intro data key answer unwritten callFilters registry
    have agree : ∀ other, Written delimiter source other → (data.answering key answer).read other = data.read other := by
      intro other written
      have different : other ≠ key := by
        rintro rfl
        exact unwritten written
      rw [Data.read, Data.read, Data.answering, if_neg different]
    exact ⟨alike agree callFilters registry, alike agree ∅ registry⟩

/-- A null and an empty entry are one to a filter that asks for the empty string, and a key that a value holds
between braces is not looked up. -/
theorem renderWith_agreeing_nested : ∃ template callFilters,
    compile .standard ∅ "$\x7ba|blank\x7d$\x7bb\x7d" = .ok template ∧
    template.renderWith callFilters .empty
      (Origin.document (.object [("a", .null), ("b", .string "$\x7bc\x7d")])).data = .ok "true$\x7bc\x7d" ∧
    template.renderWith callFilters .empty
      (Origin.entries [("a", .str ""), ("b", .str "$\x7bc\x7d"), ("c", .str "!")]).data = .ok "true$\x7bc\x7d" := by
  let callFilters : FilterTable := FilterTable.add ∅ "blank" fun value _ => .ok (.bool (value == .str ""))
  have resolved : layered callFilters ∅ .empty "blank" = some fun value _ => .ok (.bool (value == .str "")) := by
    simp [layered, callFilters, FilterTable.find?_add]
  have compiled : compile .standard ∅ "$\x7ba|blank\x7d$\x7bb\x7d" = .ok ⟨_,
      [.placeholder ⟨0, 10, "a|blank", ⟨"a", [⟨"blank", []⟩]⟩⟩, .placeholder ⟨10, 14, "b", ⟨"b", []⟩⟩], _⟩ :=
    compile_of_segments (by decide +kernel)
  obtain ⟨keys, alike, _⟩ := renderWith_agreeing compiled
  have agree : ∀ key, Written .standard "$\x7ba|blank\x7d$\x7bb\x7d" key →
      (Origin.document (.object [("a", .null), ("b", .string "$\x7bc\x7d")])).data.read key =
        (Origin.entries [("a", .str ""), ("b", .str "$\x7bc\x7d"), ("c", .str "!")]).data.read key := by
    intro key written
    have member : key ∈ ["a", "b"] := (keys key).mpr written
    rcases List.mem_pair.mp member with rfl | rfl
    · rfl
    · rfl
  refine ⟨_, callFilters, compiled, ?_⟩
  rw [← (alike _ _ agree callFilters .empty).1, and_self_iff, renderWith, resolve_eq]
  change renderSegments _ _ [_, _] = _
  simp only [renderSegments, evaluate, applyCalls, resolved]
  rfl

end Template

end TextTemplate
