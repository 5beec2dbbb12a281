import TextTemplate.Proofs.Expression.Call
import TextTemplate.Proofs.Filter.BuiltinTexts
import TextTemplate.Proofs.Rows

/-! Registries over whole runs. However registries are created, cloned and added to, each of
them answers as its lineage says: whether that began with the built-in filters, and which
registrations were accepted in it, those of the origin of a clone up to then included. -/
namespace TextTemplate

open Expression (isName_iff)
open Expression.Grammar (NameText)

theorem Builtin.mem_names_iff {name : String} : name ∈ names ↔ (find? name).isSome = true := by
  have known : table.map Prod.fst = names := rfl
  rw [← known, List.mem_map, Option.isSome_iff_exists]
  constructor
  · rintro ⟨entry, member, rfl⟩
    refine Option.ne_none_iff_exists'.mp fun absent => ?_
    exact absurd (List.lookup_eq_none_iff.mp absent entry member) (by simp)
  · rintro ⟨filter, found⟩
    obtain ⟨before, after, split, _⟩ := List.lookup_eq_some_iff.mp found
    exact ⟨(name, filter), split ▸ List.mem_append_right _ List.mem_cons_self, rfl⟩

namespace Registry

variable {registry : Registry} {name : String}

theorem names_ascending (registry : Registry) : registry.names.Pairwise (· < ·) :=
  registry.filters.ordered_keys.imp compareOfLessAndEq_eq_lt.mp

theorem mem_names_iff : name ∈ registry.names ↔ (registry.find? name).isSome = true := by
  rw [names, FilterTable.names, Std.TreeMap.mem_keys, ← Std.TreeMap.isSome_getElem?_iff_mem]
  rfl

theorem size_eq (registry : Registry) : registry.size = registry.names.length :=
  (Std.TreeMap.length_keys).symm

/-- A registration is refused for its name, or for the built-in filter that has it, or accepted. -/
theorem register_cases (registry : Registry) (name : String) (filter : Filter) :
    (¬NameText name.toList ∧ registry.register name filter = .error (.invalidName name)) ∨
    ((NameText name.toList ∧ registry.keepsBuiltins = true ∧ name ∈ Builtin.names) ∧
      registry.register name filter = .error (.builtinOverride name)) ∨
    ((NameText name.toList ∧ ¬(registry.keepsBuiltins = true ∧ name ∈ Builtin.names)) ∧
      registry.register name filter = .ok { registry with filters := registry.filters.add name filter }) := by
  rw [← isName_iff, Builtin.mem_names_iff, register]
  cases Name.isName name.toList with
  | false => exact .inl ⟨Bool.false_ne_true, rfl⟩
  | true =>
    cases kept : registry.keepsBuiltins && (Builtin.find? name).isSome with
    | true => exact .inr (.inl ⟨⟨rfl, Bool.and_eq_true_iff.mp kept⟩, rfl⟩)
    | false =>
      refine .inr (.inr ⟨⟨rfl, fun both => ?_⟩, rfl⟩)
      rw [Bool.and_eq_true_iff.mpr both] at kept
      cases kept

end Registry

/-- What is done with registries. Each is known by the number of those that came to be before it. -/
inductive Registries.Command where
  | create (builtins : Bool)
  | clone (origin : Nat)
  | register (target : Nat) (name : String) (filter : Filter)

inductive Registries.Event where
  | created (builtins : Bool)
  | cloned (origin : Nat)
  | accepted (target : Nat) (name : String) (filter : Filter)
  | refused (target : Nat) (name : String) (error : RegistryError)

/-- Registries in the order in which they came to be, and what happened to them, the latest first. -/
structure Registries where
  held : List Registry
  events : List Registries.Event

namespace Registries

/-- A command for a registry that does not exist does nothing. -/
def perform (all : Registries) : Command → Registries
  | .create builtins =>
    ⟨all.held ++ [if builtins then .withBuiltins else .empty], .created builtins :: all.events⟩
  | .clone origin =>
    match all.held[origin]? with
    | none => all
    | some registry => ⟨all.held ++ [registry], .cloned origin :: all.events⟩
  | .register target name filter =>
    match all.held[target]? with
    | none => all
    | some registry =>
      match registry.register name filter with
      | .ok next => ⟨all.held.set target next, .accepted target name filter :: all.events⟩
      | .error error => ⟨all.held, .refused target name error :: all.events⟩

def run (commands : List Command) : Registries := commands.foldl perform ⟨[], []⟩

def Command.target? : Command → Option Nat
  | .register target _ _ => some target
  | _ => none

end Registries

/-- Where a registry comes from: whether its lineage began with the built-in filters, and what
was accepted in it since, the latest first. -/
structure Lineage where
  builtins : Bool
  accepted : List (String × Filter)

namespace Lineage

def accept (lineage : Lineage) (name : String) (filter : Filter) : Lineage :=
  { lineage with accepted := (name, filter) :: lineage.accepted }

/-- The filter that was accepted last under a name, else the built-in one if the lineage began
with it. -/
def find? (lineage : Lineage) (name : String) : Option Filter :=
  match lineage.accepted.lookup name with
  | some filter => some filter
  | none => if lineage.builtins then Builtin.find? name else none

/-- The lineages of registries. That of a clone is that of its origin up to then. -/
def ofEvents : List Registries.Event → List Lineage
  | [] => []
  | .created builtins :: earlier => ofEvents earlier ++ [⟨builtins, []⟩]
  | .cloned origin :: earlier => ofEvents earlier ++ (ofEvents earlier)[origin]?.toList
  | .accepted target name filter :: earlier => (ofEvents earlier).modify target (·.accept name filter)
  | .refused _ _ _ :: earlier => ofEvents earlier

/-- What a registry with a lineage shows. -/
structure Tells (lineage : Lineage) (registry : Registry) : Prop where
  found : ∀ name, registry.find? name = lineage.find? name
  invalid : ∀ name filter, registry.register name filter = .error (.invalidName name) ↔ ¬NameText name.toList
  override : ∀ name filter, registry.register name filter = .error (.builtinOverride name) ↔
    NameText name.toList ∧ lineage.builtins = true ∧ name ∈ Builtin.names
  accepts : ∀ name filter, (∃ next, registry.register name filter = .ok next) ↔
    NameText name.toList ∧ ¬(lineage.builtins = true ∧ name ∈ Builtin.names)
  ascending : registry.names.Pairwise (· < ·)
  listed : ∀ name, name ∈ registry.names ↔ (registry.find? name).isSome = true
  size : registry.size = registry.names.length
  builtin : lineage.builtins = true → ∀ name ∈ Builtin.names,
    ∃ filter, Builtin.find? name = some filter ∧ registry.find? name = some filter

/-- What each step keeps: the registry holds what was accepted, and no built-in name was
accepted where the built-in filters came first. -/
structure Describes (lineage : Lineage) (registry : Registry) : Prop where
  keeps : registry.keepsBuiltins = lineage.builtins
  found : ∀ name, registry.find? name = lineage.find? name
  spared : lineage.builtins = true → ∀ entry ∈ lineage.accepted, entry.1 ∉ Builtin.names

variable {lineage : Lineage} {registry next : Registry} {name : String} {filter : Filter}

theorem find?_accept (lineage : Lineage) (name other : String) (filter : Filter) :
    (lineage.accept name filter).find? other = if name = other then some filter else lineage.find? other := by
  by_cases same : name = other
  · subst same
    simp [find?, accept]
  · have different : (other == name) = false := beq_false_of_ne (Ne.symm same)
    simp only [find?, accept, List.lookup_cons, different, if_neg same]
    rfl

theorem describes_start (builtins : Bool) :
    Describes ⟨builtins, []⟩ (if builtins then .withBuiltins else .empty) := by
  cases builtins with
  | true => exact ⟨rfl, Registry.find?_withBuiltins, fun _ _ member => (List.not_mem_nil member).elim⟩
  | false => exact ⟨rfl, FilterTable.find?_empty, fun _ _ member => (List.not_mem_nil member).elim⟩

theorem Describes.accept (described : Describes lineage registry)
    (accepted : registry.register name filter = .ok next) : Describes (lineage.accept name filter) next := by
  obtain ⟨_, refused⟩ | ⟨_, refused⟩ | ⟨⟨_, free⟩, same⟩ := registry.register_cases name filter
  · rw [refused] at accepted
    cases accepted
  · rw [refused] at accepted
    cases accepted
  · refine ⟨?_, fun other => ?_, fun began => List.forall_mem_cons.mpr ⟨fun builtin => ?_, described.spared began⟩⟩
    · rw [same] at accepted
      cases accepted
      exact described.keeps
    · rw [Registry.find?_register accepted, find?_accept, described.found]
    · exact free ⟨described.keeps.trans began, builtin⟩

theorem Describes.tells (described : Describes lineage registry) : Tells lineage registry where
  found := described.found
  invalid name filter := by
    obtain ⟨bad, same⟩ | ⟨⟨good, _⟩, same⟩ | ⟨⟨good, _⟩, same⟩ := registry.register_cases name filter
    · simp [same, bad]
    · simp [same, good]
    · simp [same, good]
  override name filter := by
    rw [← described.keeps]
    obtain ⟨bad, same⟩ | ⟨good, same⟩ | ⟨⟨good, free⟩, same⟩ := registry.register_cases name filter
    · simp [same, bad]
    · simp [same, good]
    · simp [same, good, free]
  accepts name filter := by
    rw [← described.keeps]
    obtain ⟨bad, same⟩ | ⟨⟨good, taken⟩, same⟩ | ⟨good, same⟩ := registry.register_cases name filter
    · simp [same, bad]
    · simp [same, taken]
    · simp [same, good]
  ascending := registry.names_ascending
  listed _ := Registry.mem_names_iff
  size := registry.size_eq
  builtin began name member := by
    obtain ⟨filter, found⟩ := Option.isSome_iff_exists.mp (Builtin.mem_names_iff.mp member)
    refine ⟨filter, found, ?_⟩
    have unheard : lineage.accepted.lookup name = none := by
      refine List.lookup_eq_none_iff.mpr fun entry present => bne_iff_ne.mpr fun same => ?_
      exact described.spared began entry present (same ▸ member)
    rw [described.found, find?, unheard]
    simp only [began, if_true, found]

end Lineage

namespace Registries

open Lineage (Describes Tells ofEvents describes_start)

theorem describes_perform {all : Registries} (described : List.Forall₂ Describes (ofEvents all.events) all.held)
    (command : Command) :
    List.Forall₂ Describes (ofEvents (all.perform command).events) (all.perform command).held := by
  cases command with
  | create builtins => exact List.rel_append described (.cons (describes_start builtins) .nil)
  | clone origin =>
    rw [perform]
    split
    · exact described
    · rename_i registry here
      obtain ⟨lineage, there, own⟩ := Rows.forall₂_getElem? described here
      rw [ofEvents, there]
      exact List.rel_append described (.cons own .nil)
  | register target name filter =>
    rw [perform]
    split
    · exact described
    · rename_i registry here
      split
      · rename_i next accepted
        exact Rows.forall₂_modify described here fun lineage own => own.accept accepted
      · exact described

theorem describes_run (commands : List Command) :
    List.Forall₂ Describes (ofEvents (run commands).events) (run commands).held := by
  suffices general : ∀ all : Registries, List.Forall₂ Describes (ofEvents all.events) all.held →
      List.Forall₂ Describes (ofEvents (commands.foldl perform all).events) (commands.foldl perform all).held from
    general ⟨[], []⟩ .nil
  induction commands with
  | nil => exact fun _ described => described
  | cons command commands ih => exact fun all described => ih _ (describes_perform described command)

theorem getElem?_perform {all : Registries} {command : Command} {index : Nat} {registry : Registry}
    (there : all.held[index]? = some registry) (other : command.target? ≠ some index) :
    (all.perform command).held[index]? = some registry := by
  have inside := (List.getElem?_eq_some_iff.mp there).1
  cases command with
  | create builtins => rwa [perform, List.getElem?_append_left inside]
  | clone origin =>
    rw [perform]
    split
    · exact there
    · rwa [List.getElem?_append_left inside]
  | register target name filter =>
    rw [perform]
    split
    · exact there
    · split
      · rwa [List.getElem?_set_ne fun same => other (congrArg some same)]
      · exact there

theorem getElem?_foldl {all : Registries} {more : List Command} {index : Nat} {registry : Registry}
    (there : all.held[index]? = some registry) (others : ∀ command ∈ more, command.target? ≠ some index) :
    (more.foldl perform all).held[index]? = some registry := by
  induction more generalizing all with
  | nil => exact there
  | cons command more ih =>
    obtain ⟨other, others⟩ := List.forall_mem_cons.mp others
    exact ih (getElem?_perform there other) others

theorem run_append (commands more : List Command) :
    run (commands ++ more) = more.foldl perform (run commands) := List.foldl_append

/-- After every run each registry tells its lineage, that of the whole process like any other.
A registration that is refused leaves all registries as they were, and what becomes of a registry
after it was cloned is unseen by the clone, as what becomes of the clone is by the registry. -/
theorem run_tells (commands : List Command) :
    List.Forall₂ Tells (ofEvents (run commands).events) (run commands).held ∧
      (∀ target name filter registry error, (run commands).held[target]? = some registry →
        registry.register name filter = .error error →
        (run (commands ++ [.register target name filter])).held = (run commands).held) ∧
      ∀ origin registry more, (run commands).held[origin]? = some registry →
        ((∀ command ∈ more, command.target? ≠ some origin) →
          (run (commands ++ .clone origin :: more)).held[origin]? = some registry) ∧
        ((∀ command ∈ more, command.target? ≠ some (run commands).held.length) →
          (run (commands ++ .clone origin :: more)).held[(run commands).held.length]? = some registry) := by
  have cloned {origin : Nat} {registry : Registry} (there : (run commands).held[origin]? = some registry) :
      ((run commands).perform (.clone origin)).held = (run commands).held ++ [registry] := by
    simp only [perform, there]
  refine ⟨(describes_run commands).imp fun _ _ described => described.tells, ?_, ?_⟩
  · intro target name filter registry error there refused
    rw [run_append, List.foldl_cons, List.foldl_nil, perform]
    simp only [there, refused]
  · intro origin registry more there
    rw [run_append, List.foldl_cons]
    refine ⟨fun others => getElem?_foldl ?_ others, fun others => getElem?_foldl ?_ others⟩
    · exact getElem?_perform there nofun
    · rw [cloned there, List.getElem?_concat_length]

/-- A clone has its own filter of a name, and its origin the one that it had; neither lets a
built-in filter be replaced. -/
theorem run_tells_clone : ∃ first second : Filter, ∃ original clone : Registry,
    (run [.create true, .register 0 "shout" first]).held = [original] ∧
    (run [.create true, .register 0 "shout" first, .clone 0, .register 1 "shout" second]).held =
      [original, clone] ∧
    original.find? "shout" = some first ∧ clone.find? "shout" = some second ∧
    clone.register "upper" second = .error (.builtinOverride "upper") ∧
    (run [.create true, .register 0 "shout" first, .clone 0, .register 1 "shout" second,
      .register 1 "upper" second]).held = [original, clone] := by
  let first : Filter := fun _ _ => .ok (.str "first")
  let second : Filter := fun _ _ => .ok (.str "second")
  let before : List Command := [.create true, .register 0 "shout" first]
  let after : List Command := before ++ [.clone 0, .register 1 "shout" second]
  obtain ⟨single, _, apart⟩ := run_tells before
  obtain ⟨both, refusal, _⟩ := run_tells after
  have began : ofEvents (run before).events = [⟨true, [("shout", first)]⟩] := rfl
  have ended : ofEvents (run after).events =
      [⟨true, [("shout", first)]⟩, ⟨true, [("shout", second), ("shout", first)]⟩] := rfl
  rw [began] at single
  rw [ended] at both
  obtain ⟨original, _, own, none, held⟩ := List.forall₂_cons_left_iff.mp single
  cases none
  obtain ⟨same, _, _, rest, grown⟩ := List.forall₂_cons_left_iff.mp both
  obtain ⟨clone, _, other, none, rfl⟩ := List.forall₂_cons_left_iff.mp rest
  cases none
  have kept : (run after).held[0]? = some original :=
    (apart 0 original [.register 1 "shout" second] (by rw [held]; rfl)).1 (by simp [Command.target?])
  rw [grown] at kept
  cases kept
  have override : clone.register "upper" second = .error (.builtinOverride "upper") :=
    (other.override _ _).mpr ⟨isName_iff.mp (by decide), rfl, by decide⟩
  refine ⟨first, second, original, clone, held, grown, own.found _, other.found _, override, ?_⟩
  exact (refusal 1 "upper" second clone _ (by rw [grown]; rfl) override).trans grown

end Registries

end TextTemplate
