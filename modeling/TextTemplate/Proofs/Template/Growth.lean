import TextTemplate.Proofs.Filter.BuiltinTexts
import TextTemplate.Proofs.Template.Layers

/-! Registries that grow. Registrations that put no filter in the place of another change no
result of rendering but one: a name that was unknown may now be known. -/
namespace TextTemplate

namespace Registry

def offered (registry : Registry) (name : String) (filter : Filter) : Registry :=
  match registry.register name filter with
  | .ok next => next
  | .error _ => registry

def offeredAll (registry : Registry) (offers : List (String × Filter)) : Registry :=
  offers.foldl (fun registry (name, filter) => registry.offered name filter) registry

/-- One of the registrations is for a name, and is accepted when its turn comes. -/
def Accepts (registry : Registry) (offers : List (String × Filter)) (name : String) : Prop :=
  ∃ before filter after next, offers = before ++ (name, filter) :: after ∧
    (registry.offeredAll before).register name filter = .ok next

variable {registry : Registry} {offers : List (String × Filter)} {name : String}

theorem Accepts.later {own : String} {filter : Filter}
    (accepts : (registry.offered own filter).Accepts offers name) :
    registry.Accepts ((own, filter) :: offers) name := by
  obtain ⟨before, other, after, next, rfl, accepted⟩ := accepts
  exact ⟨(own, filter) :: before, other, after, next, rfl, accepted⟩

theorem find?_offeredAll (never : ¬registry.Accepts offers name) :
    (registry.offeredAll offers).find? name = registry.find? name := by
  induction offers generalizing registry with
  | nil => rfl
  | cons offer offers ih =>
    obtain ⟨own, filter⟩ := offer
    have first : (registry.offered own filter).find? name = registry.find? name := by
      unfold offered
      split
      · rename_i next accepted
        have other : own ≠ name := by
          rintro rfl
          exact never ⟨[], filter, offers, next, rfl, accepted⟩
        rw [find?_register accepted, if_neg other]
      · rfl
    rw [offeredAll, List.foldl_cons]
    exact (ih fun accepts => never accepts.later).trans first

end Registry

namespace Template

variable {find? other? : String → Option Filter} {fresh : String → Prop} {data : Data}

/-- A result that stays as it is, unless it was that a name is unknown which is so no longer. -/
def Stays (fresh : String → Prop) (before after : Except TemplateError α) : Prop :=
  after = before ∨ ∃ name position, before = .error (.unknownFilter name position) ∧ fresh name

theorem Stays.map {before after : Except TemplateError α} (stays : Stays fresh before after) (f : α → β) :
    Stays fresh (before.map f) (after.map f) := by
  rcases stays with rfl | ⟨name, position, rfl, new⟩
  · exact .inl rfl
  · exact .inr ⟨name, position, rfl, new⟩

/-- Look-ups of which the second knows more names, each of them new. -/
def Extends (fresh : String → Prop) (find? other? : String → Option Filter) : Prop :=
  ∀ name, other? name = find? name ∨ find? name = none ∧ fresh name

theorem applyCalls_stays {position : Nat} {value : Value} {calls : List Call}
    (more : Extends fresh find? other?) :
    Stays fresh (applyCalls find? position value calls) (applyCalls other? position value calls) := by
  induction calls generalizing value with
  | nil => exact .inl rfl
  | cons call calls ih =>
    rw [applyCalls, applyCalls]
    rcases more call.name with same | ⟨absent, new⟩
    · rw [same]
      cases find? call.name with
      | none => exact .inl rfl
      | some filter =>
        dsimp only
        cases filter value call.arguments with
        | error cause => exact .inl rfl
        | ok next => exact ih
    · rw [absent]
      exact .inr ⟨call.name, position, rfl, new⟩

theorem renderSegments_stays {pieces : List Segment} (more : Extends fresh find? other?) :
    Stays fresh (renderSegments find? data pieces) (renderSegments other? data pieces) := by
  induction pieces with
  | nil => exact .inl rfl
  | cons piece pieces ih =>
    cases piece with
    | literal start text => exact ih.map _
    | placeholder placeholder =>
      have own : Stays fresh (evaluate find? data placeholder) (evaluate other? data placeholder) :=
        applyCalls_stays more
      rw [renderSegments, renderSegments]
      rcases own with same | ⟨name, position, unknown, new⟩
      · rw [same]
        cases evaluate find? data placeholder with
        | error error => exact .inl rfl
        | ok value => exact ih.map _
      · rw [unknown]
        exact .inr ⟨name, position, rfl, new⟩

/-- An inner layer that has a name hides what is registered under it. -/
theorem layered_extends {registry : Registry} {offers : List (String × Filter)}
    (spares : ∀ name, registry.Accepts offers name → registry.find? name = none)
    (callFilters filters : FilterTable) :
    Extends (registry.Accepts offers) (layered callFilters filters registry)
      (layered callFilters filters (registry.offeredAll offers)) := by
  intro name
  by_cases accepts : registry.Accepts offers name
  · rw [layered, layered, spares name accepts]
    cases callFilters.find? name with
    | some filter => exact .inl rfl
    | none =>
      cases filters.find? name with
      | some filter => exact .inl rfl
      | none => exact .inr ⟨rfl, accepts⟩
  · rw [layered, layered, Registry.find?_offeredAll accepts]
    exact .inl rfl

theorem renderWith_stays {registry : Registry} {offers : List (String × Filter)}
    (spares : ∀ name, registry.Accepts offers name → registry.find? name = none)
    (template : Template) (callFilters : FilterTable) (data : Data) :
    Stays (registry.Accepts offers) (template.renderWith callFilters registry data)
      (template.renderWith callFilters (registry.offeredAll offers) data) := by
  rw [renderWith, renderWith]
  split
  · exact .inl rfl
  · rw [resolve_eq, resolve_eq]
    exact renderSegments_stays (layered_extends spares callFilters template.filters)

/-- Registrations that replace no filter leave each result as it is, unless it was that a name is
unknown and the name is among those accepted: for a template that was compiled before them, and
for a source that is compiled after them. -/
theorem rendered_offeredAll {registry : Registry} {offers : List (String × Filter)}
    (spares : ∀ name, registry.Accepts offers name → registry.find? name = none)
    (callFilters : FilterTable) (data : Data) :
    (∀ template : Template, Stays (registry.Accepts offers) (template.renderWith callFilters registry data)
      (template.renderWith callFilters (registry.offeredAll offers) data)) ∧
    ∀ delimiter filters source, Stays (registry.Accepts offers)
      (rendered delimiter filters callFilters registry data source)
      (rendered delimiter filters callFilters (registry.offeredAll offers) data source) := by
  refine ⟨fun template => renderWith_stays spares template callFilters data, fun delimiter filters source => ?_⟩
  rw [rendered, rendered]
  cases compile delimiter filters source with
  | error error => exact .inl rfl
  | ok template => exact renderWith_stays spares template callFilters data

/-- A filter that is registered, and one that is refused, do not disturb a template that calls another. -/
theorem rendered_offeredAll_upper : ∃ (filter : Filter) (template : Template),
    (Registry.withBuiltins.offeredAll [("shout", filter), ("two words", filter)]).find? "shout" = some filter ∧
    template.renderWith ∅ .withBuiltins (fun _ => some (.str "a")) = .ok "A" ∧
    template.renderWith ∅ (Registry.withBuiltins.offeredAll [("shout", filter), ("two words", filter)])
      (fun _ => some (.str "a")) = .ok "A" := by
  let filter : Filter := fun _ _ => .ok (.str "loud")
  let template : Template :=
    ⟨"$\x7bx|upper\x7d", [.placeholder ⟨0, 10, "x|upper", ⟨"x", [⟨"upper", []⟩]⟩⟩], ∅⟩
  have resolved : template.resolve ∅ .withBuiltins = Builtin.find? := by
    funext name
    rw [resolve_eq, layered, FilterTable.find?_empty, Registry.find?_withBuiltins]
    rfl
  have output : template.renderWith ∅ .withBuiltins (fun _ => some (.str "a")) = .ok "A" := by
    rw [renderWith, resolved]
    rfl
  have accepted : Registry.withBuiltins.register "shout" filter =
      .ok ⟨Registry.withBuiltins.filters.add "shout" filter, true⟩ := rfl
  have grown : Registry.withBuiltins.offeredAll [("shout", filter), ("two words", filter)] =
      ⟨Registry.withBuiltins.filters.add "shout" filter, true⟩ := rfl
  have known : (Registry.withBuiltins.offeredAll [("shout", filter), ("two words", filter)]).find? "shout" =
      some filter := by
    rw [grown, Registry.find?_register accepted, if_pos rfl]
  have spares (name : String)
      (accepts : Registry.withBuiltins.Accepts [("shout", filter), ("two words", filter)] name) :
      Registry.withBuiltins.find? name = none := by
    obtain ⟨before, other, after, next, split, _⟩ := accepts
    have member : (name, other) ∈ [("shout", filter), ("two words", filter)] :=
      split ▸ List.mem_append_right _ List.mem_cons_self
    rw [Registry.find?_withBuiltins]
    rcases List.mem_pair.mp member with same | same
    · cases same
      rfl
    · cases same
      rfl
  obtain same | ⟨_, _, unknown, _⟩ := (rendered_offeredAll spares ∅ fun _ => some (.str "a")).1 template
  · exact ⟨filter, template, known, output, same.trans output⟩
  · rw [output] at unknown
    cases unknown

end Template

end TextTemplate
