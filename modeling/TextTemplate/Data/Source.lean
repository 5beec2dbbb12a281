import TextTemplate.Value

/-! Data sources. A source answers each key with a value or with nothing. -/
namespace TextTemplate

abbrev Data := String → Option Value

namespace Data

/-- What a placeholder takes from its source: the value of its key, and the empty string when there is none. -/
def read (data : Data) (key : String) : Value := (data key).getD (.str "")

def none : Data := fun _ => .none

/-- The entries of a list; a later entry of a key takes the place of an earlier one. -/
def ofEntries (entries : List (String × Value)) : Data := fun key => entries.reverse.lookup key

abbrev Variables := List (String × ByteArray)

def isVariable (name : String) : Bool :=
  !name.isEmpty && !name.toList.contains '=' && !name.toList.contains '\x00'

/-- An environment: a variable whose bytes are no text has no value. -/
def ofVariables (held : Variables) : Data := fun key =>
  if isVariable key then
    (held.reverse.lookup key).bind fun bytes => (String.fromUTF8? bytes).map Value.str
  else .none

end Data

end TextTemplate
