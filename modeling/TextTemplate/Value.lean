import TextTemplate.Decimal.Layout
import TextTemplate.Text.Blank

/-! The values that flow from data through filters into text. A value is always
readable as text, and as a 64-bit integer; the variant matters only to a filter
that asks for it. -/
namespace TextTemplate

open Decimal

inductive Value where
  | str (content : String)
  | int (number : Int64)
  | float (number : Binary64)
  | bool (truth : Bool)
deriving DecidableEq

namespace Value

def equal : Value → Value → Bool
  | .str first, .str second => first == second
  | .int first, .int second => first == second
  | .float first, .float second => first == second
  | .bool first, .bool second => first == second
  | _, _ => false

instance : BEq Value := ⟨equal⟩

/-- Floats are written without a power of ten, and whole ones without a point. -/
def floatLayout : Layout where
  tie := .up
  positional := fun _ => true
  wholeEnd := ""
  exponentSign := ""
  infinite := "inf"
  nan := "NaN"

/-- Below this bound a whole float is written as the integer it equals, so that
either zero is written `0`. -/
def wholeBound : Nat := 1_000_000_000_000_000

def floatText : Binary64 → List Char
  | .finite negative magnitude =>
    if magnitude.isWhole && magnitude.floor < wholeBound then
      intDigits (applySign negative magnitude.floor)
    else floatLayout.write (.finite negative magnitude)
  | number => floatLayout.write number

def text : Value → String
  | .str content => content
  | .int number => String.ofList (intDigits number.toInt)
  | .float number => String.ofList (floatText number)
  | .bool truth => if truth then "true" else "false"

/-- A trimmed text is read as a 64-bit integer, else as a float that is truncated,
and any other text as zero. -/
def readInteger (content : List Char) : Int64 :=
  let trimmed := Text.trim content
  match readInt64? trimmed with
  | some number => number
  | none =>
    match Binary64.read? trimmed with
    | some number => number.truncate
    | none => 0

def integer : Value → Int64
  | .str content => readInteger content.toList
  | .int number => number
  | .float number => number.truncate
  | .bool truth => if truth then 1 else 0

/-- Only the empty string is empty: every number and truth value has a text. -/
def isEmpty : Value → Bool
  | .str content => content.isEmpty
  | _ => false

end Value

end TextTemplate
