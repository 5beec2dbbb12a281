import TextTemplate.Proofs.Expression.Acceptance
import TextTemplate.Proofs.Template.Rendering

/-! Three layers of filters act as one. A name is found in the topmost layer that has it, so the
layers may be laid over one another before a source is compiled or rendered. Only the names that
a source calls are looked up, and it calls nothing that is no name. -/
namespace TextTemplate

/-- A table with another laid over it, which hides the filters whose names it has. -/
def FilterTable.overlaidBy (below above : FilterTable) : FilterTable := below ∪ above

theorem FilterTable.find?_overlaidBy (below above : FilterTable) (name : String) :
    (below.overlaidBy above).find? name = (above.find? name).or (below.find? name) :=
  Std.TreeMap.getElem?_union

def Registry.overlaidBy (registry : Registry) (filters : FilterTable) : Registry :=
  { registry with filters := registry.filters.overlaidBy filters }

namespace Template

open Result (mapError_eq_ok)

/-- Compiles a source with filters of its own and renders it once. -/
def rendered (delimiter : Delimiter) (filters callFilters : FilterTable) (registry : Registry) (data : Data)
    (source : String) : Except TemplateError String := do
  let template ← compile delimiter filters source
  template.renderWith callFilters registry data

/-- A source calls a name when a placeholder of it does. -/
def Calls (delimiter : Delimiter) (source name : String) : Prop :=
  ∃ template, compile delimiter ∅ source = .ok template ∧
    ∃ placeholder ∈ template.placeholders, ∃ call ∈ placeholder.expression.calls, call.name = name

variable {delimiter : Delimiter} {filters callFilters : FilterTable} {registry : Registry} {data : Data}
variable {source : String} {find? other? : String → Option Filter}

theorem layered_overlaidBy (callFilters filters : FilterTable) (registry : Registry) :
    layered ∅ (filters.overlaidBy callFilters) registry = layered callFilters filters registry := by
  funext name
  rw [layered, layered, FilterTable.find?_empty, FilterTable.find?_overlaidBy, Option.none_or, Option.or_assoc]

theorem layered_registry (callFilters filters : FilterTable) (registry : Registry) :
    layered ∅ ∅ ((registry.overlaidBy filters).overlaidBy callFilters) = layered callFilters filters registry := by
  funext name
  simp only [layered, FilterTable.find?_empty, Option.none_or, Registry.find?, Registry.overlaidBy,
    FilterTable.find?_overlaidBy]

theorem compile_filters (delimiter : Delimiter) (filters : FilterTable) (source : String) :
    compile delimiter filters source =
      (compile delimiter ∅ source).map fun template => { template with filters := filters } := by
  simp only [compile]
  cases delimiter.regex.allMatches source.toList.toArray with
  | nil => rfl
  | cons found rest =>
    dsimp only
    cases segmentsFrom source.toList.toArray 0 0 (found :: rest) with
    | error error => rfl
    | ok pieces => rfl

/-- Renders with a look-up in the place of the layers. -/
def renderBy (find? : String → Option Filter) (data : Data) (template : Template) : Except TemplateError String :=
  if template.isStatic then .ok template.source else renderSegments find? data template.segments

theorem rendered_eq : rendered delimiter filters callFilters registry data source =
    compile delimiter ∅ source >>= renderBy (layered callFilters filters registry) data := by
  rw [rendered, compile_filters]
  cases compile delimiter ∅ source with
  | error error => rfl
  | ok template =>
    change renderWith _ _ _ _ = renderBy _ _ _
    rw [renderWith, resolve_eq]
    rfl

theorem applyCalls_congr {position : Nat} {value : Value} {calls : List Call}
    (agree : ∀ call ∈ calls, find? call.name = other? call.name) :
    applyCalls find? position value calls = applyCalls other? position value calls := by
  induction calls generalizing value with
  | nil => rfl
  | cons call calls ih =>
    obtain ⟨own, rest⟩ := List.forall_mem_cons.mp agree
    rw [applyCalls, applyCalls, own]
    simp only [ih rest]

theorem renderBy_congr (agree : ∀ name, Calls delimiter source name → find? name = other? name) :
    compile delimiter ∅ source >>= renderBy find? data = compile delimiter ∅ source >>= renderBy other? data := by
  cases compiled : compile delimiter ∅ source with
  | error error => rfl
  | ok template =>
    change renderBy _ _ _ = renderBy _ _ _
    have same : renderSegments find? data template.segments = renderSegments other? data template.segments := by
      refine renderSegments_congr fun placeholder member => congrArg _ (applyCalls_congr fun call own => ?_)
      exact agree call.name ⟨template, compiled, placeholder, member, call, own, rfl⟩
    rw [renderBy, renderBy, same]

theorem Calls.isName {name : String} (calls : Calls delimiter source name) : Name.isName name.toList = true := by
  obtain ⟨template, compiled, placeholder, member, call, own, rfl⟩ := calls
  obtain ⟨found, _, shown⟩ := exists_shown (shown_of_compile compiled) placeholder member
  exact Expression.isName_of_read (mapError_eq_ok.mp shown.expression) call own

/-- Option filters with the filters of a call over them and a registry below give what one table
gives, and what a registry gives that has all of them. A compiled source keeps its filters and
answers each render as if compiled for it, and what a table has for other names than those that
the source calls is of no effect. -/
theorem rendered_layers (delimiter : Delimiter) (filters callFilters : FilterTable) (registry : Registry)
    (source : String) :
    (∀ data, rendered delimiter filters callFilters registry data source =
        rendered delimiter (filters.overlaidBy callFilters) ∅ registry data source ∧
      rendered delimiter filters callFilters registry data source =
        rendered delimiter ∅ ∅ ((registry.overlaidBy filters).overlaidBy callFilters) data source) ∧
    (∀ template, compile delimiter filters source = .ok template →
      template.source = source ∧ template.filters = filters ∧
        ∀ callFilters registry data, template.renderWith callFilters registry data =
          rendered delimiter filters callFilters registry data source) ∧
    ∀ filters' callFilters', (∀ name, Name.isName name.toList = true → Calls delimiter source name →
        filters'.find? name = filters.find? name ∧ callFilters'.find? name = callFilters.find? name) →
      ∀ data, rendered delimiter filters' callFilters' registry data source =
        rendered delimiter filters callFilters registry data source := by
  refine ⟨fun data => ⟨?_, ?_⟩, fun template compiled => ?_, fun filters' callFilters' agree data => ?_⟩
  · rw [rendered_eq, rendered_eq, layered_overlaidBy]
  · rw [rendered_eq, rendered_eq, layered_registry]
  · obtain ⟨own, kept, _⟩ := of_compile compiled
    refine ⟨own, kept, fun callFilters registry data => ?_⟩
    rw [rendered, compiled]
    rfl
  · rw [rendered_eq, rendered_eq]
    refine renderBy_congr fun name calls => ?_
    obtain ⟨filtersAgree, callsAgree⟩ := agree name calls.isName calls
    rw [layered, layered, filtersAgree, callsAgree]

/-- Of three filters of one name that of the call answers, and a filter without a proper name never does. -/
theorem rendered_layers_upper : ∃ filters callFilters : FilterTable,
    rendered .standard filters callFilters .withBuiltins .none "$\x7bx|upper\x7d" = .ok "call" ∧
      rendered .standard (filters.overlaidBy callFilters) ∅ .withBuiltins .none "$\x7bx|upper\x7d" = .ok "call" ∧
      rendered .standard ∅ ∅ ((Registry.withBuiltins.overlaidBy filters).overlaidBy callFilters) .none
        "$\x7bx|upper\x7d" = .ok "call" ∧
      rendered .standard (filters.add "no name" fun _ _ => .error (.custom "no")) callFilters .withBuiltins .none
        "$\x7bx|upper\x7d" = .ok "call" := by
  let filters : FilterTable := FilterTable.add ∅ "upper" fun _ _ => .ok (.str "option")
  let callFilters : FilterTable := FilterTable.add ∅ "upper" fun _ _ => .ok (.str "call")
  have resolved : layered callFilters filters .withBuiltins "upper" = some fun _ _ => .ok (.str "call") := by
    simp [layered, callFilters, FilterTable.find?_add]
  have own : rendered .standard filters callFilters .withBuiltins .none "$\x7bx|upper\x7d" = .ok "call" := by
    have compiled : compile .standard ∅ "$\x7bx|upper\x7d" =
        .ok ⟨_, [.placeholder ⟨0, 10, "x|upper", ⟨"x", [⟨"upper", []⟩]⟩⟩], _⟩ := compile_of_segments (by decide +kernel)
    rw [rendered_eq, compiled]
    change renderSegments _ _ [_] = _
    simp only [renderSegments, evaluate, applyCalls, resolved]
    rfl
  obtain ⟨same, _, others⟩ := rendered_layers .standard filters callFilters .withBuiltins "$\x7bx|upper\x7d"
  refine ⟨filters, callFilters, own, (same _).1.symm.trans own, (same _).2.symm.trans own, ?_⟩
  refine (others _ _ (fun name proper _ => ⟨?_, rfl⟩) _).trans own
  rw [FilterTable.find?_add, if_neg]
  rintro rfl
  exact absurd proper (by decide)

end Template

end TextTemplate
