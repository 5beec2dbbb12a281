import TextTemplate.Proofs.Data.Silence
import TextTemplate.Proofs.Expression.RoundTrip
import TextTemplate.Proofs.Filter.Lineage
import TextTemplate.Proofs.Template.Growth
import TextTemplate.Proofs.Template.Pair

/-! Names that can be registered and names that can be called are the same. Registration looks at
a name as a whole, and a placeholder finds it between a pipe, blanks and a parenthesis; neither takes what the
other refuses. -/
namespace TextTemplate

open Expression.Grammar (CallText NameText)

namespace Registry

theorem keepsBuiltins_offeredAll (registry : Registry) (offers : List (String × Filter)) :
    (registry.offeredAll offers).keepsBuiltins = registry.keepsBuiltins := by
  induction offers generalizing registry with
  | nil => rfl
  | cons offer offers ih =>
    obtain ⟨name, filter⟩ := offer
    have first : (registry.offered name filter).keepsBuiltins = registry.keepsBuiltins := by
      unfold offered
      obtain ⟨_, same⟩ | ⟨_, same⟩ | ⟨_, same⟩ := registry.register_cases name filter
      · rw [same]
      · rw [same]
      · rw [same]
    rw [offeredAll, List.foldl_cons]
    exact (ih _).trans first

theorem accepts_bare_iff {registry : Registry} (bare : registry.keepsBuiltins = false) (name : String) (filter : Filter) :
    (∃ next, registry.register name filter = .ok next) ↔ NameText name.toList := by
  obtain ⟨bad, same⟩ | ⟨⟨_, kept, _⟩, _⟩ | ⟨⟨good, _⟩, same⟩ := registry.register_cases name filter
  · simp [same, bad]
  · rw [bare] at kept
    cases kept
  · simp [same, good]

end Registry

namespace Expression

open Grammar

theorem read_name {name : String} (named : NameText name.toList) :
    read ("x | " ++ name).toList = .ok ⟨"x", [⟨name, []⟩]⟩ := by
  have key : ReadBack "x ".toList ⟨"x", []⟩ := ⟨rfl, rfl⟩
  have derived : CallText name.toList ⟨name, []⟩ := by
    have bare := CallText.bare named
    rwa [String.ofList_toList] at bare
  have blank : Text.Blanks [' '] := by
    intro c member
    obtain rfl := List.mem_singleton.mp member
    rfl
  have called := (key.extend blank derived Text.blanks_nil).reads
  simpa using called

end Expression

namespace Template

open Delimiter (Brace braceless_iff)
open Expression.Grammar

variable {delimiter : Delimiter} {expression : Expression} {opening closing content : String}

/-- A content without braces between the two texts of a delimiter renders to the text of what its calls make of
the datum. -/
theorem rendered_single (paired : Delimiter.pair opening closing = .ok delimiter) (nonempty : content ≠ "")
    (plain : ∀ c ∈ content.toList, ¬ Brace c) (read : Expression.read content.toList = .ok expression)
    (filters callFilters : FilterTable) (registry : Registry) (data : Data) :
    rendered delimiter filters callFilters registry data (opening ++ content ++ closing) =
      (applyCalls (layered callFilters filters registry) 0 (data.read expression.key) expression.calls).map
        Value.text := by
  have inside : ∀ c ∈ content.toList, Delimiter.braceless.has c = true :=
    fun c member => braceless_iff.mpr (plain c member)
  rw [rendered_eq, compile_single (Delimiter.pair_program paired) nonempty inside read]
  change renderSegments _ _ [_] = _
  rw [renderSegments, evaluate]
  cases applyCalls (layered callFilters filters registry) 0 (data.read expression.key) expression.calls with
  | error error => rfl
  | ok value => simp [renderSegments, Except.map]

theorem not_brace_of_name {name : List Char} (named : NameText name) : ∀ c ∈ name, ¬ Brace c := by
  intro c member brace
  have inName := Expression.isLater_iff.mpr (Expression.char_of_nameText named c member)
  rcases brace with rfl | rfl
  · exact absurd inName (by decide)
  · exact absurd inName (by decide)

theorem rendered_name {name : String} {filter : Filter} {registry : Registry} (named : NameText name.toList)
    (known : registry.find? name = some filter) (data : Data) :
    rendered .standard ∅ ∅ registry data ("$\x7b" ++ ("x | " ++ name) ++ "\x7d") =
      ((filter (data.read "x") []).mapError (TemplateError.filter name 0)).map Value.text := by
  have plain : ∀ c ∈ ("x | " ++ name).toList, ¬ Brace c := by
    intro c member
    rw [String.toList_append] at member
    rcases List.mem_append.mp member with front | own
    · rintro (rfl | rfl)
      · exact absurd front (by decide)
      · exact absurd front (by decide)
    · exact not_brace_of_name named c own
  have nonempty : "x | " ++ name ≠ "" := by
    intro empty
    have length := congrArg String.length empty
    simp at length
  have resolved : layered ∅ ∅ registry name = some filter := by
    rw [layered, FilterTable.find?_empty, Option.none_or, Option.none_or, known]
  rw [rendered_single Delimiter.pair_standard nonempty plain (Expression.read_name named)]
  simp only [applyCalls, resolved]
  cases filter (data.read "x") [] with
  | error cause => rfl
  | ok value => rfl

/-- A bare registry accepts a name exactly when a pipe before it makes an expression that calls it, and it accepts
every name that an expression or a compiled source calls. A placeholder of the standard delimiter that calls a name applies
the filter that was registered for it. -/
theorem register_iff_called (name : String) (filter : Filter) :
    (∀ offers position, (∃ next, (Registry.empty.offeredAll offers).register name filter = .ok next) ↔
      (Expression.read ("x | " ++ name).toList).mapError (TemplateError.ofDefect position) =
        .ok ⟨"x", [⟨name, []⟩]⟩) ∧
    (∀ content position expression,
      (Expression.read content).mapError (TemplateError.ofDefect position) = .ok expression →
        ∀ call ∈ expression.calls, ∀ offers,
          ∃ next, (Registry.empty.offeredAll offers).register call.name filter = .ok next) ∧
    (∀ registry next : Registry, registry.register name filter = .ok next → ∀ data,
      rendered .standard ∅ ∅ next data ("$\x7b" ++ ("x | " ++ name) ++ "\x7d") =
        ((filter (data.read "x") []).mapError (TemplateError.filter name 0)).map Value.text) ∧
    ∀ delimiter source called, Calls delimiter source called → ∀ offers,
      ∃ next, (Registry.empty.offeredAll offers).register called filter = .ok next := by
  have bare (offers : List (String × Filter)) : (Registry.empty.offeredAll offers).keepsBuiltins = false :=
    Registry.keepsBuiltins_offeredAll _ _
  have accepts (offers : List (String × Filter)) {called : String} (proper : Name.isName called.toList = true) :
      ∃ next, (Registry.empty.offeredAll offers).register called filter = .ok next :=
    (Registry.accepts_bare_iff (bare offers) called filter).mpr (Expression.isName_iff.mp proper)
  refine ⟨?_, ?_, ?_, ?_⟩
  · intro offers position
    rw [Registry.accepts_bare_iff (bare offers), Result.mapError_eq_ok]
    constructor
    · exact Expression.read_name
    · intro called
      exact Expression.isName_iff.mp (Expression.isName_of_read called _ List.mem_cons_self)
  · intro content position expression success call member offers
    exact accepts offers (Expression.isName_of_read (Result.mapError_eq_ok.mp success) call member)
  · intro registry next accepted data
    have known : next.find? name = some filter := by rw [Registry.find?_register accepted, if_pos rfl]
    obtain ⟨_, refused⟩ | ⟨_, refused⟩ | ⟨⟨named, _⟩, _⟩ := registry.register_cases name filter
    · rw [refused] at accepted
      cases accepted
    · rw [refused] at accepted
      cases accepted
    · exact rendered_name named known data
  · intro delimiter source called calls offers
    exact accepts offers calls.isName

/-- A dollar sign in a name is no placeholder, and what a pipe cuts in two is no name. -/
theorem register_iff_called_dollar : ∃ next, Registry.empty.register "$_1" (fun _ _ => .ok (.str "seen")) = .ok next ∧
    rendered .standard ∅ ∅ next .none "$\x7bx | $_1\x7d" = .ok "seen" ∧
    ¬ ∃ other, Registry.empty.register "a|b" (fun _ _ => .ok (.str "seen")) = .ok other := by
  obtain ⟨registrable, _, applied, _⟩ := register_iff_called "$_1" fun _ _ => .ok (.str "seen")
  obtain ⟨next, accepted⟩ := (registrable [] 0).mpr rfl
  refine ⟨next, accepted, applied .empty next accepted .none, ?_⟩
  intro cut
  have one := ((register_iff_called "a|b" fun _ _ => .ok (.str "seen")).1 [] 0).mp cut
  have two : (Expression.read "x | a|b".toList).mapError (TemplateError.ofDefect 0) =
      .ok ⟨"x", [⟨"a", []⟩, ⟨"b", []⟩]⟩ := rfl
  have same : [(⟨"a", []⟩ : Call), ⟨"b", []⟩] = [⟨"a|b", []⟩] :=
    congrArg Expression.calls (Except.ok.inj (two.symm.trans one))
  simp at same

end Template

end TextTemplate
