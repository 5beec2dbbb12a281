import TextTemplate.Expression.Basic
import TextTemplate.Filter.Basic

/-! Why a template cannot be compiled or rendered. A position is the byte at which the
placeholder begins. -/
namespace TextTemplate

/-- Why a pattern cannot delimit placeholders. -/
inductive DelimiterDefect where
  | pattern (defect : Regex.Defect)
  | noGroup
deriving DecidableEq

inductive TemplateError where
  | unknownFilter (name : String) (position : Nat)
  | malformedArguments (name : String) (defect : Expression.ArgumentDefect) (position : Nat)
  | invalidFilterName (name : String) (position : Nat)
  | invalidDelimiter (pattern : String) (defect : DelimiterDefect)
  | filter (name : String) (position : Nat) (cause : FilterError)
deriving DecidableEq

def DelimiterDefect.message : DelimiterDefect → String
  | .pattern defect => defect.message
  | .noGroup => "pattern has no capture group for the placeholder content"

namespace TemplateError

open Text (ticked)

def atByte (position : Nat) : String := " at byte " ++ String.ofList (Decimal.digits position)

def message : TemplateError → String
  | .unknownFilter name position => "unknown filter " ++ ticked name ++ " in placeholder" ++ atByte position
  | .malformedArguments name defect position =>
    "malformed filter arguments" ++ atByte position ++ ": " ++ name ++ ": " ++ defect.message
  | .invalidFilterName name position => "invalid filter name " ++ ticked name ++ atByte position
  | .invalidDelimiter pattern defect =>
    "invalid delimiter pattern " ++ ticked pattern ++ ": " ++ defect.message
  | .filter name position cause =>
    "filter " ++ ticked name ++ " failed" ++ atByte position ++ ": " ++ cause.message

def ofDefect (position : Nat) : Expression.Defect → TemplateError
  | .invalidName segment => .invalidFilterName segment position
  | .malformedArguments name defect => .malformedArguments name defect position

end TemplateError

end TextTemplate
