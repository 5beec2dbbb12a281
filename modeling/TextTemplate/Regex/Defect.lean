/-! What can be wrong with the text of a pattern. -/
namespace TextTemplate.Regex

inductive Defect where
  | unclosedGroup
  | unopenedGroup
  | lookAround
  | groupName
  | repeatedName
  | flag
  | danglingEscape
  | unknownEscape
  | backReference
  | hexDigits
  | codePoint
  | unknownProperty
  | unclosedClass
  | classItem
  | classRange
  | nothingToRepeat
  | repetition
  /-- A Unicode feature where Unicode is switched off. -/
  | unicodeOff
  /-- A pattern that could stop inside the bytes of a character. -/
  | brokenCharacter
  | tooDeep
  | tooLarge
deriving DecidableEq

def Defect.message : Defect → String
  | .unclosedGroup => "unclosed group"
  | .unopenedGroup => "unopened group"
  | .lookAround => "look-around is not supported"
  | .groupName => "invalid capture group name"
  | .repeatedName => "duplicate capture group name"
  | .flag => "invalid flags"
  | .danglingEscape => "incomplete escape sequence"
  | .unknownEscape => "unrecognized escape sequence"
  | .backReference => "backreferences are not supported"
  | .hexDigits => "invalid hexadecimal digits"
  | .codePoint => "not a Unicode scalar value"
  | .unknownProperty => "Unicode property not found"
  | .unclosedClass => "unclosed character class"
  | .classItem => "invalid item in a character class"
  | .classRange => "invalid character class range"
  | .nothingToRepeat => "repetition operator missing expression"
  | .repetition => "invalid repetition count"
  | .unicodeOff => "Unicode not allowed here"
  | .brokenCharacter => "pattern can match invalid UTF-8"
  | .tooDeep => "exceeds the nesting limit"
  | .tooLarge => "exceeds the size limit"

end TextTemplate.Regex
