/-! Names of filters: a letter, an underscore or a dollar sign, then any number of
these and of digits, all of them ASCII. -/
namespace TextTemplate.Name

def isStart (c : Char) : Bool := c.isAlpha || c == '_' || c == '$'

def isLater (c : Char) : Bool := isStart c || c.isDigit

def isName : List Char → Bool
  | [] => false
  | first :: rest => isStart first && rest.all isLater

end TextTemplate.Name
