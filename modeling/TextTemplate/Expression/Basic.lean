import TextTemplate.Text.Quoted
import TextTemplate.Value

/-! An expression is what stands inside a placeholder: the key of a datum and the
calls that are applied to it, first to last. -/
namespace TextTemplate

structure Call where
  name : String
  arguments : List Value
deriving DecidableEq

structure Expression where
  key : String
  calls : List Call
deriving DecidableEq

namespace Expression

open Text (ticked)

/-- Why an argument list cannot be read. -/
inductive ArgumentDefect where
  | unclosedList
  | unclosedString
  | missingLiteral
  | notLiteral (found : Char)
  | notSeparator (found : Char)
  | afterList (found : Char)
  | badNumber (text : String)
deriving DecidableEq

inductive Defect where
  /-- A segment that does not begin with a name, or continues with more than a list. -/
  | invalidName (segment : String)
  | malformedArguments (name : String) (defect : ArgumentDefect)
deriving DecidableEq

def ArgumentDefect.message : ArgumentDefect → String
  | .unclosedList => "unclosed '('"
  | .unclosedString => "unterminated string literal"
  | .missingLiteral => "expected a literal"
  | .notLiteral found =>
    "expected a string or number literal, found " ++ ticked (String.singleton found)
  | .notSeparator found => "unexpected " ++ ticked (String.singleton found) ++ " in argument list"
  | .afterList found => "unexpected " ++ ticked (String.singleton found) ++ " after ')'"
  | .badNumber text => "invalid number " ++ ticked text

end Expression

end TextTemplate
