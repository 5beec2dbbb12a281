import TextTemplate.Regex.Defect
import TextTemplate.Text.Quoted
import TextTemplate.Value

/-! A filter takes the current value of a chain and its own arguments to the next value,
or fails. -/
namespace TextTemplate

inductive FilterError where
  | missingArgument (filter : String) (index : Nat)
  | invalidRegex (filter : String) (defect : Regex.Defect)
  | unsupportedFlag (filter : String) (flag : Char)
  /-- A failure that a filter words itself. -/
  | custom (message : String)
deriving DecidableEq

abbrev Filter := Value → List Value → Except FilterError Value

def FilterError.message : FilterError → String
  | .missingArgument filter index => filter ++ ": argument " ++ String.ofList (Decimal.digits index) ++ " missing"
  | .invalidRegex filter defect => filter ++ ": invalid regular expression: " ++ defect.message
  | .unsupportedFlag filter flag => filter ++ ": unsupported regex flag " ++ Text.ticked (String.singleton flag)
  | .custom message => message

def argument (filter : String) (arguments : List Value) (index : Nat) : Except FilterError Value :=
  match arguments[index]? with
  | some value => .ok value
  | none => .error (.missingArgument filter index)

end TextTemplate
