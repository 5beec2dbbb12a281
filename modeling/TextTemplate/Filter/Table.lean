import TextTemplate.Filter.Basic
import TextTemplate.Text.Quoted
import Std.Data.TreeMap

/-! Tables of filters by name, in the order of the names. A later filter of a name takes
the place of an earlier one. -/
namespace TextTemplate

abbrev FilterTable := Std.TreeMap String Filter

namespace FilterTable

def find? (table : FilterTable) (name : String) : Option Filter := table.get? name

def add (table : FilterTable) (name : String) (filter : Filter) : FilterTable := table.insert name filter

@[simp] theorem find?_empty (name : String) : find? ∅ name = none := by
  simp [find?]

theorem find?_add (table : FilterTable) (name other : String) (filter : Filter) :
    (table.add name filter).find? other = if name = other then some filter else table.find? other := by
  simp [find?, add, Std.TreeMap.getElem?_insert]

def ofList (filters : List (String × Filter)) : FilterTable :=
  filters.foldl (fun table (name, filter) => table.add name filter) ∅

def names (table : FilterTable) : List String := table.keys

def describe (table : FilterTable) : String := "\x7b" ++ Text.quotedList table.names ++ "\x7d"

end FilterTable

end TextTemplate
