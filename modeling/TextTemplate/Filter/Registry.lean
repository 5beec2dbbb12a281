import TextTemplate.Filter.Builtin
import TextTemplate.Filter.Table
import TextTemplate.Name

/-! Registries: tables of filters that accept only names, and that keep their built-in
filters if they began with them. -/
namespace TextTemplate

inductive RegistryError where
  | invalidName (name : String)
  | builtinOverride (name : String)
deriving DecidableEq

def RegistryError.message : RegistryError → String
  | .invalidName name => "invalid filter name " ++ Text.ticked name ++ ": expected an identifier"
  | .builtinOverride name => "cannot replace built-in filter " ++ Text.ticked name

structure Registry where
  filters : FilterTable
  keepsBuiltins : Bool

namespace Registry

def empty : Registry := ⟨∅, false⟩

/-- A registry that begins with a filter for each name of a built-in one. -/
def withBuiltins : Registry :=
  ⟨FilterTable.ofList (Builtin.names.filterMap fun name => (Builtin.find? name).map (name, ·)), true⟩

def find? (registry : Registry) (name : String) : Option Filter := registry.filters.find? name

/-- Adds a filter, or puts it in the place of one of the same name. -/
def register (registry : Registry) (name : String) (filter : Filter) : Except RegistryError Registry :=
  if !Name.isName name.toList then .error (.invalidName name)
  else if registry.keepsBuiltins && (Builtin.find? name).isSome then .error (.builtinOverride name)
  else .ok { registry with filters := registry.filters.add name filter }

/-- An accepted filter answers to its name, and all other names answer as before. -/
theorem find?_register {registry next : Registry} {name : String} {filter : Filter}
    (accepted : registry.register name filter = .ok next) (other : String) :
    next.find? other = if name = other then some filter else registry.find? other := by
  unfold register at accepted
  split at accepted
  · cases accepted
  · split at accepted
    · cases accepted
    · cases accepted
      exact FilterTable.find?_add registry.filters name other filter

def names (registry : Registry) : List String := registry.filters.names

def size (registry : Registry) : Nat := registry.filters.size

def describe (registry : Registry) : String :=
  "FilterRegistry \x7b names: [" ++ Text.quotedList registry.names ++ "] \x7d"

end Registry

end TextTemplate
