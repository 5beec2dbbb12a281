import TextTemplate.Proofs.Template.Segments
import TextTemplate.Template.Render

/-! What rendering means. Either every placeholder has a value, and the bytes of the source
come out with the values in the place of the placeholders; or the first placeholder without
a value says why, by the first call of its chain that fails, and nothing else comes out. -/
namespace TextTemplate.Template

open Result (map_eq_ok map_eq_error map_eq_map)
open Text (Rest)

/-- Calls applied one after another, each to the value that the one before it gave. -/
inductive Applied (find? : String → Option Filter) : Value → List Call → Value → Prop where
  | done : Applied find? value [] value
  | next (resolved : find? call.name = some filter) (given : filter value call.arguments = .ok middle)
      (rest : Applied find? middle later result) : Applied find? value (call :: later) result

/-- A call that gives no value: its name is unknown, or its filter fails. -/
inductive Refused (find? : String → Option Filter) (position : Nat) (value : Value) (call : Call) :
    TemplateError → Prop where
  | unknown (absent : find? call.name = none) :
      Refused find? position value call (.unknownFilter call.name position)
  | filter (resolved : find? call.name = some filter) (failed : filter value call.arguments = .error cause) :
      Refused find? position value call (.filter call.name position cause)

def Yields (find? : String → Option Filter) (data : Data) (placeholder : Placeholder) (value : Value) : Prop :=
  Applied find? (data.read placeholder.expression.key) placeholder.expression.calls value

/-- The first call that gives no value says why. -/
def Fails (find? : String → Option Filter) (data : Data) (placeholder : Placeholder) (error : TemplateError) :
    Prop :=
  ∃ before call after middle, placeholder.expression.calls = before ++ call :: after ∧
    Applied find? (data.read placeholder.expression.key) before middle ∧ Refused find? placeholder.start middle call error

/-- The bytes of a source from an offset on, with values in the place of placeholders. -/
def spliced (source : ByteArray) (offset : Nat) : List (Placeholder × Value) → ByteArray
  | [] => source.extract offset source.size
  | (placeholder, value) :: rest =>
    source.extract offset placeholder.start ++ value.text.toByteArray ++ spliced source placeholder.stop rest

/-- What a source with placeholders may render to. -/
inductive Renders (find? : String → Option Filter) (data : Data) (source : String)
    (placeholders : List Placeholder) : Except TemplateError String → Prop where
  | output {text : String} (values : List.Forall₂ (Yields find? data) placeholders results)
      (bytes : text.toByteArray = spliced source.toByteArray 0 (placeholders.zip results)) :
      Renders find? data source placeholders (.ok text)
  | failure (first : placeholders = before ++ placeholder :: after)
      (earlier : ∀ other ∈ before, ∃ value, Yields find? data other value)
      (fails : Fails find? data placeholder error) : Renders find? data source placeholders (.error error)

variable {find? : String → Option Filter} {data : Data}

theorem applyCalls_eq_ok {position : Nat} {value result : Value} {calls : List Call} :
    applyCalls find? position value calls = .ok result ↔ Applied find? value calls result := by
  induction calls generalizing value with
  | nil =>
    constructor
    · intro success
      cases success
      exact .done
    · rintro ⟨⟩
      rfl
  | cons call calls ih =>
    rw [applyCalls]
    constructor
    · intro success
      split at success
      · cases success
      · rename_i filter resolved
        split at success
        · cases success
        · rename_i middle given
          exact .next resolved given (ih.mp success)
    · rintro ⟨⟩
      rename_i filter middle resolved given rest
      simp only [resolved, given]
      exact ih.mpr rest

theorem applyCalls_eq_error {position : Nat} {value : Value} {calls : List Call} {error : TemplateError} :
    applyCalls find? position value calls = .error error ↔
      ∃ before call after middle, calls = before ++ call :: after ∧ Applied find? value before middle ∧
        Refused find? position middle call error := by
  induction calls generalizing value with
  | nil => simp [applyCalls]
  | cons call calls ih =>
    rw [applyCalls]
    constructor
    · intro failure
      split at failure
      · rename_i absent
        cases failure
        exact ⟨[], call, calls, value, rfl, .done, .unknown absent⟩
      · rename_i filter resolved
        split at failure
        · rename_i cause failed
          cases failure
          exact ⟨[], call, calls, value, rfl, .done, .filter resolved failed⟩
        · rename_i middle given
          obtain ⟨before, other, after, last, rfl, applied, refused⟩ := ih.mp failure
          exact ⟨call :: before, other, after, last, rfl, .next resolved given applied, refused⟩
    · rintro ⟨before, other, after, last, split, applied, refused⟩
      cases applied with
      | done =>
        obtain ⟨rfl, rfl⟩ := List.cons.inj split
        cases refused with
        | unknown absent => simp only [absent]
        | filter resolved failed => simp only [resolved, failed]
      | next resolved given rest =>
        obtain ⟨rfl, rfl⟩ := List.cons.inj split
        simp only [resolved, given]
        exact ih.mpr ⟨_, _, _, _, rfl, rest, refused⟩

theorem evaluate_eq_ok {placeholder : Placeholder} {value : Value} :
    evaluate find? data placeholder = .ok value ↔ Yields find? data placeholder value := applyCalls_eq_ok

theorem evaluate_eq_error {placeholder : Placeholder} {error : TemplateError} :
    evaluate find? data placeholder = .error error ↔ Fails find? data placeholder error := applyCalls_eq_error

/-- The first placeholder without a value decides the error. -/
theorem renderSegments_eq_error {pieces : List Segment} {error : TemplateError} :
    renderSegments find? data pieces = .error error ↔
      ∃ before placeholder after, pieces.filterMap placeholder? = before ++ placeholder :: after ∧
        (∀ other ∈ before, ∃ value, Yields find? data other value) ∧ Fails find? data placeholder error := by
  induction pieces with
  | nil => simp [renderSegments]
  | cons piece pieces ih =>
    cases piece with
    | literal start text =>
      rw [renderSegments, map_eq_error, ih]
      rfl
    | placeholder placeholder =>
      rw [renderSegments, filterMap_placeholder]
      constructor
      · intro failure
        split at failure
        · rename_i other evaluated
          cases failure
          exact ⟨[], placeholder, _, rfl, by simp, evaluate_eq_error.mp evaluated⟩
        · rename_i value evaluated
          obtain ⟨before, other, after, split, earlier, fails⟩ := ih.mp (map_eq_error.mp failure)
          refine ⟨placeholder :: before, other, after, by rw [split]; rfl, ?_, fails⟩
          exact List.forall_mem_cons.mpr ⟨⟨value, evaluate_eq_ok.mp evaluated⟩, earlier⟩
      · rintro ⟨before, other, after, split, earlier, fails⟩
        cases before with
        | nil =>
          obtain ⟨rfl, rfl⟩ := List.cons.inj split
          simp only [evaluate_eq_error.mpr fails]
        | cons first before =>
          obtain ⟨rfl, onward⟩ := List.cons.inj split
          obtain ⟨⟨value, yields⟩, earlier⟩ := List.forall_mem_cons.mp earlier
          simp only [evaluate_eq_ok.mpr yields]
          exact map_eq_error.mpr (ih.mpr ⟨before, other, after, onward, earlier, fails⟩)

theorem spliced_skip {source : ByteArray} {offset middle : Nat} {pairs : List (Placeholder × Value)}
    (ordered : offset ≤ middle) (inside : middle ≤ source.size)
    (behind : ∀ pair ∈ pairs, middle ≤ pair.1.start) :
    spliced source offset pairs = source.extract offset middle ++ spliced source middle pairs := by
  cases pairs with
  | nil => exact ByteArray.extract_eq_extract_append_extract middle ordered inside
  | cons pair pairs =>
    have gap := behind pair List.mem_cons_self
    rw [spliced, spliced, ByteArray.extract_eq_extract_append_extract middle ordered gap]
    simp only [ByteArray.append_assoc]

theorem Covers.le_start {pieces : List Segment} {later : List Char} (covers : Covers position pieces later) :
    ∀ placeholder ∈ pieces.filterMap placeholder?, position ≤ placeholder.start := by
  induction covers with
  | done => simp
  | literal _ ih => exact fun placeholder member => Nat.le_trans (Nat.le_add_right _ _) (ih placeholder member)
  | @placeholder placeholder position _ _ _ starts stops _ ih =>
    rw [filterMap_placeholder]
    refine List.forall_mem_cons.mpr ⟨Nat.le_of_eq starts.symm, fun other member => ?_⟩
    exact Nat.le_trans (stops ▸ Nat.le_add_right _ _) (ih other member)

/-- Look-ups and data that give each placeholder one text, or one error, give one result. -/
theorem renderSegments_congr {other? : String → Option Filter} {data' : Data} {pieces : List Segment}
    (same : ∀ placeholder ∈ pieces.filterMap placeholder?,
      (evaluate find? data placeholder).map Value.text = (evaluate other? data' placeholder).map Value.text) :
    renderSegments find? data pieces = renderSegments other? data' pieces := by
  induction pieces with
  | nil => rfl
  | cons piece pieces ih =>
    cases piece with
    | literal start text => rw [renderSegments, renderSegments, ih same]
    | placeholder placeholder =>
      rw [filterMap_placeholder] at same
      obtain ⟨own, rest⟩ := List.forall_mem_cons.mp same
      rw [renderSegments, renderSegments]
      rcases map_eq_map.mp own with ⟨error, left, right⟩ | ⟨value, other, left, right, text⟩
      · rw [left, right]
      · rw [left, right, ih rest]
        simp only [text]

theorem values_of_renderSegments {pieces : List Segment} {output : String}
    (success : renderSegments find? data pieces = .ok output) :
    ∃ values, List.Forall₂ (Yields find? data) (pieces.filterMap placeholder?) values := by
  induction pieces generalizing output with
  | nil => exact ⟨[], .nil⟩
  | cons piece pieces ih =>
    cases piece with
    | literal start text =>
      rw [renderSegments] at success
      obtain ⟨later, rest, _⟩ := map_eq_ok.mp success
      exact ih rest
    | placeholder placeholder =>
      rw [renderSegments] at success
      split at success
      · cases success
      · rename_i value evaluated
        obtain ⟨later, rest, _⟩ := map_eq_ok.mp success
        obtain ⟨values, yields⟩ := ih rest
        exact ⟨value :: values, .cons (evaluate_eq_ok.mp evaluated) yields⟩

theorem renderSegments_of_values {source : String} {position : Nat} {pieces : List Segment} {later : List Char}
    {values : List Value} (covers : Covers position pieces later) (rest : Rest source position later)
    (yields : List.Forall₂ (Yields find? data) (pieces.filterMap placeholder?) values) :
    ∃ output, renderSegments find? data pieces = .ok output ∧
      output.toByteArray = spliced source.toByteArray position ((pieces.filterMap placeholder?).zip values) := by
  induction covers generalizing values with
  | @done position =>
    cases yields
    refine ⟨"", rfl, ?_⟩
    have size := rest.size
    rw [Text.byteLength_nil, Nat.add_zero] at size
    rw [List.filterMap_nil, List.zip_nil_left, spliced, size, ByteArray.extract_same]
    rfl
  | @literal position text pieces later covers ih =>
    obtain ⟨output, rendered, bytes⟩ := ih rest.skip yields
    refine ⟨String.ofList text ++ output, map_eq_ok.mpr ⟨output, rendered, rfl⟩, ?_⟩
    have slice := rest.slice
    rw [String.toByteArray_append, bytes, ← slice.bytes]
    refine (spliced_skip slice.ordered ?_ fun pair member => ?_).symm
    · rw [rest.skip.size]
      exact Nat.le_add_right _ _
    · exact covers.le_start pair.1 (List.of_mem_zip member).1
  | @placeholder placeholder position pieces later written starts stops covers ih =>
    rw [filterMap_placeholder] at yields ⊢
    cases yields with
    | @cons _ value _ values own yields =>
      obtain ⟨output, rendered, bytes⟩ := ih (stops ▸ rest.skip) yields
      refine ⟨value.text ++ output, ?_, ?_⟩
      · rw [renderSegments]
        simp only [evaluate_eq_ok.mpr own]
        exact map_eq_ok.mpr ⟨output, rendered, rfl⟩
      · rw [List.zip_cons_cons, spliced, starts, ByteArray.extract_same, ByteArray.empty_append,
          String.toByteArray_append, bytes]

theorem renderSegments_eq_ok {source output : String} {position : Nat} {pieces : List Segment} {later : List Char}
    (covers : Covers position pieces later) (rest : Rest source position later) :
    renderSegments find? data pieces = .ok output ↔
      ∃ values, List.Forall₂ (Yields find? data) (pieces.filterMap placeholder?) values ∧
        output.toByteArray = spliced source.toByteArray position ((pieces.filterMap placeholder?).zip values) := by
  constructor
  · intro success
    obtain ⟨values, yields⟩ := values_of_renderSegments success
    obtain ⟨other, rendered, bytes⟩ := renderSegments_of_values covers rest yields
    rw [success] at rendered
    cases rendered
    exact ⟨values, yields, bytes⟩
  · rintro ⟨values, yields, bytes⟩
    obtain ⟨other, rendered, same⟩ := renderSegments_of_values covers rest yields
    obtain rfl := String.toByteArray_inj.mp (bytes.trans same.symm)
    exact rendered

/-- The filter of a name: that of the call comes before that of the template, and the registry last. -/
def layered (callFilters filters : FilterTable) (registry : Registry) (name : String) : Option Filter :=
  (callFilters.find? name).or ((filters.find? name).or (registry.find? name))

theorem resolve_eq (template : Template) (callFilters : FilterTable) (registry : Registry) :
    template.resolve callFilters registry = layered callFilters template.filters registry := by
  funext name
  rw [resolve, layered]
  cases callFilters.find? name with
  | some filter => rfl
  | none =>
    cases template.filters.find? name with
    | some filter => rfl
    | none => rfl

theorem renderSegments_iff_renders {source : String} {pieces : List Segment} {result : Except TemplateError String}
    (covers : Covers 0 pieces source.toList) :
    renderSegments find? data pieces = result ↔ Renders find? data source (pieces.filterMap placeholder?) result := by
  cases result with
  | ok output =>
    rw [renderSegments_eq_ok covers (Text.rest_all source)]
    constructor
    · rintro ⟨values, yields, bytes⟩
      exact .output yields bytes
    · intro renders
      cases renders with
      | output yields bytes => exact ⟨_, yields, bytes⟩
  | error error =>
    rw [renderSegments_eq_error]
    constructor
    · rintro ⟨before, placeholder, after, split, earlier, fails⟩
      exact .failure split earlier fails
    · intro renders
      cases renders with
      | failure first earlier fails => exact ⟨_, _, _, first, earlier, fails⟩

theorem renders_static {source : String} {result : Except TemplateError String} :
    Except.ok source = result ↔ Renders find? data source [] result := by
  have bytes : source.toByteArray = spliced source.toByteArray 0 [] := by
    rw [spliced, ByteArray.extract_zero_size]
  constructor
  · rintro rfl
    exact .output .nil bytes
  · intro renders
    cases renders with
    | output values same =>
      cases values
      exact congrArg Except.ok (String.toByteArray_inj.mp (bytes.trans same.symm))
    | failure first _ _ => simp at first

/-- Rendering a compiled source gives what the source may render to, and nothing else: with
filters for the call, and without. -/
theorem renderWith_iff_renders {delimiter : Delimiter} {filters : FilterTable} {source : String}
    {template : Template} (compiled : compile delimiter filters source = .ok template)
    (callFilters : FilterTable) (registry : Registry) (data : Data) (result : Except TemplateError String) :
    (template.renderWith callFilters registry data = result ↔
        Renders (layered callFilters filters registry) data source template.placeholders result) ∧
      (template.render registry data = result ↔
        Renders (layered ∅ filters registry) data source template.placeholders result) := by
  obtain ⟨own, rfl, _⟩ := of_compile compiled
  have general (callFilters : FilterTable) : template.renderWith callFilters registry data = result ↔
      Renders (layered callFilters template.filters registry) data source template.placeholders result := by
    rw [renderWith, isStatic, own, placeholders_eq]
    rcases covers_of_compile compiled with static | covers
    · rw [static]
      exact renders_static
    · rw [resolve_eq]
      split
      · rename_i static
        rw [List.isEmpty_iff.mp static]
        exact renders_static
      · exact renderSegments_iff_renders covers
  exact ⟨general callFilters, general ∅⟩

/-- A name that is unknown in a later placeholder does not hide the filter that failed. -/
theorem renderWith_iff_renders_failing_filter : ∃ template callFilters,
    compile .standard ∅ "é$\x7bx|fail\x7d$\x7by|nope\x7d" = .ok template ∧
      template.renderWith callFilters .empty .none = .error (.filter "fail" 2 (.custom "no")) := by
  let callFilters : FilterTable := FilterTable.add ∅ "fail" fun _ _ => .error (.custom "no")
  have resolved : layered callFilters ∅ .empty "fail" = some fun _ _ => .error (.custom "no") := by
    simp [layered, callFilters, FilterTable.find?_add]
  have compiled : compile .standard ∅ "é$\x7bx|fail\x7d$\x7by|nope\x7d" = .ok ⟨_, [.literal 0 "é",
      .placeholder ⟨2, 11, "x|fail", ⟨"x", [⟨"fail", []⟩]⟩⟩,
      .placeholder ⟨11, 20, "y|nope", ⟨"y", [⟨"nope", []⟩]⟩⟩], _⟩ := compile_of_segments (by decide +kernel)
  refine ⟨_, callFilters, compiled, ?_⟩
  refine (renderWith_iff_renders compiled callFilters .empty .none _).1.mpr ?_
  refine .failure (List.nil_append _).symm (by simp) ?_
  exact ⟨[], ⟨"fail", []⟩, [], _, rfl, .done, .filter resolved rfl⟩

end TextTemplate.Template
