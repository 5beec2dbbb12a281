import TextTemplate.Filter.Replace
import TextTemplate.Unicode.Case

/-! The built-in filters. Each reads the current value through its text. -/
namespace TextTemplate.Builtin

/-- A filter that maps the text of the value and takes no arguments. -/
def mapText (transform : List Char → List Char) : Filter := fun value _ =>
  .ok (.str (String.ofList (transform value.text.toList)))

/-- A backslash goes before each backslash and each quote. -/
def escapeChar (c : Char) : List Char :=
  if c = '\\' ∨ c = '\x27' ∨ c = '"' then ['\\', c] else [c]

def escape (text : List Char) : List Char := text.flatMap escapeChar

def esc : Filter := mapText escape

def capitalize : Filter := mapText Unicode.capitalize

def upper : Filter := mapText Unicode.upper

def lower : Filter := mapText Unicode.lower

/-- The value, or the argument in the place of an empty one; neither is turned to text. -/
def default : Filter := fun value arguments => do
  let fallback ← argument "def" arguments 0
  .ok (if value.isEmpty then fallback else value)

/-- Addition that stops at the ends of the range. -/
def saturatingAdd (first second : Int64) : Int64 := Int64.ofIntClamp (first.toInt + second.toInt)

/-- Where a substring begins: a negative start counts from the end and stops at the
first character, and no start lies behind the end. -/
def windowStart (length start : Int64) : Int64 :=
  if start < 0 then (if length + start < 0 then 0 else length + start)
  else if length < start then length else start

/-- Where a substring ends: at the end of the text, or so many characters on. -/
def windowStop (length first : Int64) : Option Int64 → Int64
  | none => length
  | some count =>
    let stop := saturatingAdd first (if count < 0 then 0 else count)
    if length < stop then length else stop

def window (text : List Char) (start : Int64) (count : Option Int64) : List Char :=
  let length := Int64.ofNat text.length
  let first := windowStart length start
  let stop := windowStop length first count
  (text.drop first.toInt.toNat).take (stop - first).toInt.toNat

def substr : Filter := fun value arguments => do
  let start ← argument "substr" arguments 0
  .ok (.str (String.ofList
    (window value.text.toList start.integer (arguments[1]?.map Value.integer))))

def table : List (String × Filter) :=
  [("esc", esc), ("capitalize", capitalize), ("upper", upper), ("lower", lower), ("def", default),
    ("replace", Replace.filter), ("substr", substr)]

/-- Their names, in the order in which they are presented. -/
def names : List String := ["esc", "capitalize", "upper", "lower", "def", "replace", "substr"]

def find? (name : String) : Option Filter := table.lookup name

end TextTemplate.Builtin
