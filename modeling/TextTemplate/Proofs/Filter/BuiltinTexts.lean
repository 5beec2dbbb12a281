import TextTemplate.Filter.Registry

/-! What the built-in filters see of a value. Only the empty string has no text, so even the
filter that asks whether a value is empty asks for its text. -/
namespace TextTemplate

open Decimal (Binary64 Layout Magnitude intDigits)

namespace Value

theorem intDigits_ne_nil (number : Int) : intDigits number ≠ [] := by
  unfold intDigits
  split
  · exact List.cons_ne_nil _ _
  · exact Nat.toDigits_ne_nil

theorem place_ne_nil {layout : Layout} {significant : List Char} {exponent : Int} (nonempty : significant ≠ []) :
    layout.place significant exponent ≠ [] := by
  unfold Layout.place
  dsimp only
  split
  · exact List.append_ne_nil_of_left_ne_nil (List.append_ne_nil_of_left_ne_nil nonempty _) _
  · split
    · exact List.append_ne_nil_of_right_ne_nil _ (List.cons_ne_nil _ _)
    · exact List.cons_ne_nil _ _

theorem floatText_ne_nil (number : Binary64) : floatText number ≠ [] := by
  have written (magnitude : Magnitude) : floatLayout.magnitude magnitude ≠ [] :=
    place_ne_nil Nat.toDigits_ne_nil
  cases number with
  | finite negative magnitude =>
    rw [floatText]
    split
    · exact intDigits_ne_nil _
    · exact List.append_ne_nil_of_right_ne_nil _ (written magnitude)
  | infinite negative => exact List.append_ne_nil_of_right_ne_nil _ (by decide)
  | nan => exact (by decide : "NaN".toList ≠ [])

theorem isEmpty_iff (value : Value) : value.isEmpty = true ↔ value.text = "" := by
  have visible {written : List Char} (nonempty : written ≠ []) : String.ofList written ≠ "" :=
    mt String.ofList_eq_empty_iff.mp nonempty
  cases value with
  | str content => exact String.isEmpty_iff
  | int number => exact iff_of_false Bool.false_ne_true (visible (intDigits_ne_nil _))
  | float number => exact iff_of_false Bool.false_ne_true (visible (floatText_ne_nil _))
  | bool truth => exact iff_of_false Bool.false_ne_true (by cases truth <;> decide)

end Value

/-- A filter for which values with one text are the same. It gives one text for them, or one error. -/
def ReadsText (filter : Filter) : Prop :=
  ∀ first second arguments, first.text = second.text →
    (filter first arguments).map Value.text = (filter second arguments).map Value.text

namespace Builtin

theorem readsText_mapText (transform : List Char → List Char) : ReadsText (mapText transform) := by
  intro first second arguments same
  rw [mapText, mapText, same]

/-- The value that takes the place of an empty one does not depend on it. -/
theorem readsText_default : ReadsText default := by
  intro first second arguments same
  have empty : first.isEmpty = second.isEmpty := by
    rw [Bool.eq_iff_iff, first.isEmpty_iff, second.isEmpty_iff, same]
  rw [default, default, empty]
  cases argument "def" arguments 0 with
  | error cause => rfl
  | ok fallback =>
    cases second.isEmpty with
    | true => rfl
    | false => exact congrArg Except.ok same

theorem readsText_substr : ReadsText substr := by
  intro first second arguments same
  rw [substr, substr, same]

theorem readsText_replace : ReadsText Replace.filter := by
  intro first second arguments same
  have finish (job : Replace.Job) : job.finish first = job.finish second := by
    funext compiled
    cases compiled with
    | error defect => rfl
    | ok regex => rw [Replace.Job.finish, Replace.Job.finish, same]
  simp only [Replace.filter, finish]

theorem readsText_of_find? {name : String} {filter : Filter} (found : find? name = some filter) :
    ReadsText filter := by
  have all : ∀ entry ∈ table, ReadsText entry.2 := by
    simp only [table, List.forall_mem_cons]
    exact ⟨readsText_mapText _, readsText_mapText _, readsText_mapText _, readsText_mapText _, readsText_default,
      readsText_replace, readsText_substr, by simp⟩
  obtain ⟨before, after, split, _⟩ := List.lookup_eq_some_iff.mp found
  exact all (name, filter) (split ▸ List.mem_append_right _ List.mem_cons_self)

end Builtin

theorem FilterTable.find?_foldl (filters : List (String × Filter)) (table : FilterTable) (name : String) :
    (filters.foldl (fun table (name, filter) => table.add name filter) table).find? name =
      (filters.reverse.lookup name).or (table.find? name) := by
  induction filters generalizing table with
  | nil => rfl
  | cons entry filters ih =>
    obtain ⟨own, filter⟩ := entry
    rw [List.foldl_cons, ih, find?_add, List.reverse_cons, List.lookup_append, Option.or_assoc]
    by_cases same : own = name
    · simp [same]
    · have other : (name == own) = false := beq_false_of_ne (Ne.symm same)
      simp [List.lookup_cons, same, other]

/-- When the names are distinct it does not matter which of the filters answers first. -/
theorem lookup_reverse {filters : List (String × Filter)} (distinct : (filters.map Prod.fst).Nodup) (name : String) :
    filters.reverse.lookup name = filters.lookup name := by
  induction filters with
  | nil => rfl
  | cons entry filters ih =>
    obtain ⟨own, filter⟩ := entry
    obtain ⟨fresh, distinct⟩ := List.nodup_cons.mp distinct
    rw [List.reverse_cons, List.lookup_append, ih distinct, List.lookup_cons, List.lookup_cons]
    by_cases same : name = own
    · subst same
      have absent : filters.lookup name = none := by
        refine List.lookup_eq_none_iff.mpr fun entry member => bne_iff_ne.mpr fun taken => fresh ?_
        exact taken ▸ List.mem_map.mpr ⟨entry, member, rfl⟩
      simp [absent]
    · simp [beq_false_of_ne same]

theorem Builtin.filterMap_names : names.filterMap (fun name => (find? name).map (name, ·)) = table := rfl

/-- The registry that begins with the built-in filters knows each by its name, and no other. -/
theorem Registry.find?_withBuiltins (name : String) : withBuiltins.find? name = Builtin.find? name := by
  rw [find?, withBuiltins, Builtin.filterMap_names, FilterTable.ofList, FilterTable.find?_foldl,
    FilterTable.find?_empty, Option.or_none]
  exact lookup_reverse (by decide) name

end TextTemplate
