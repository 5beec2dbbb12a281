import TextTemplate.Proofs.Filter.BuiltinTexts
import TextTemplate.Proofs.Template.Rendering

/-! Templates that call only built-in filters see their data as texts. Two runs on data with the
same texts may go through values of different variants, but never through different texts. -/
namespace TextTemplate

def Data.texts (data : Data) : Data := fun key => (data key).map fun value => .str value.text

namespace Template

open Result (map_eq_map)

variable {find? : String → Option Filter} {first second : Data}

/-- Calls that find filters which read values through their text, or find nothing. -/
def ReadTexts (find? : String → Option Filter) (calls : List Call) : Prop :=
  ∀ call ∈ calls, ∀ filter, find? call.name = some filter → ReadsText filter

/-- Whatever text the calls make of a value they make of any other with its text. -/
theorem applyCalls_text {calls : List Call} {position : Nat} {value other : Value}
    (reads : ReadTexts find? calls) (same : value.text = other.text) :
    (applyCalls find? position value calls).map Value.text =
      (applyCalls find? position other calls).map Value.text := by
  induction calls generalizing value other with
  | nil => exact congrArg Except.ok same
  | cons call calls ih =>
    obtain ⟨own, rest⟩ := List.forall_mem_cons.mp reads
    rw [applyCalls, applyCalls]
    cases resolved : find? call.name with
    | none => rfl
    | some filter =>
      dsimp only
      rcases map_eq_map.mp (own filter resolved value other call.arguments same) with
        ⟨cause, left, right⟩ | ⟨next, next', left, right, same⟩
      · rw [left, right]
      · rw [left, right]
        exact ih rest same

theorem evaluate_text {placeholder : Placeholder} (reads : ReadTexts find? placeholder.expression.calls)
    (same : ∀ key, (first key).map Value.text = (second key).map Value.text) :
    (evaluate find? first placeholder).map Value.text = (evaluate find? second placeholder).map Value.text := by
  refine applyCalls_text reads ?_
  have own := congrArg (Option.getD · (Value.text (.str ""))) (same placeholder.expression.key)
  simpa only [Data.read, Option.getD_map] using own

theorem texts_text (data : Data) (key : String) :
    (data.texts key).map Value.text = (data key).map Value.text := by
  rw [Data.texts, Option.map_map]
  rfl

/-- When every call finds the built-in filter of its name, data render as their texts do. -/
theorem renderWith_texts {template : Template} {callFilters : FilterTable} {registry : Registry}
    (builtin : ∀ placeholder ∈ template.placeholders, ∀ call ∈ placeholder.expression.calls,
      template.resolve callFilters registry call.name = Builtin.find? call.name) (data : Data) :
    template.renderWith callFilters registry data.texts = template.renderWith callFilters registry data := by
  rw [renderWith, renderWith]
  split
  · rfl
  · refine renderSegments_congr fun placeholder member =>
      evaluate_text (fun call own filter resolved => ?_) (texts_text data)
    rw [builtin placeholder member call own] at resolved
    exact Builtin.readsText_of_find? resolved

/-- A truth value goes through the fallback as it is, and its text as a text. -/
theorem renderWith_texts_fallback : ∃ template, compile .standard ∅ "$\x7bx|def('a')|upper\x7d" = .ok template ∧
    template.renderWith ∅ .withBuiltins (Data.texts fun _ => some (.bool true)) = .ok "TRUE" ∧
      template.renderWith ∅ .withBuiltins (fun _ => some (.bool true)) = .ok "TRUE" := by
  have compiled : compile .standard ∅ "$\x7bx|def('a')|upper\x7d" = .ok ⟨_, [.placeholder ⟨0, 19, "x|def('a')|upper",
      ⟨"x", [⟨"def", [.str "a"]⟩, ⟨"upper", []⟩]⟩⟩], _⟩ := compile_of_segments (by decide +kernel)
  refine ⟨_, compiled, ?_⟩
  have builtin (template : Template) (own : template.filters = ∅) :
      template.resolve ∅ .withBuiltins = Builtin.find? := by
    funext name
    rw [resolve_eq, own, layered, FilterTable.find?_empty, Registry.find?_withBuiltins]
    rfl
  rw [renderWith_texts fun _ _ call _ => congrFun (builtin _ rfl) call.name]
  refine (and_self_iff).mpr ?_
  rw [renderWith, builtin _ rfl]
  rfl

end Template

end TextTemplate
