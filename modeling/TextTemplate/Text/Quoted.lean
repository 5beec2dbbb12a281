import TextTemplate.Unicode.Category
import TextTemplate.Unicode.Property

/-! Text within text. Between double quotes, what a reader could not see or would misread is
written as an escape; between backquotes a text stands as it is. -/
namespace TextTemplate.Text

/-- Categories of characters that have no visible form. -/
def hiddenRanges : List Unicode.Ranges :=
  Unicode.categoryRanges ["cc", "cf", "cn", "co", "zl", "zp", "zs"]

def extenderRanges : Unicode.Ranges := Unicode.propertyRanges "graphemeextend"

/-- Whether a character is shown as itself: it has a visible form, or is the space, and
does not attach to the character before it. -/
def isShown (c : Char) : Bool :=
  if c.toNat < 127 then 32 ≤ c.toNat
  else !extenderRanges.contains c.toNat && !hiddenRanges.any fun ranges => ranges.contains c.toNat

def codeEscape (c : Char) : List Char := "\\u\x7b".toList ++ Nat.toDigits 16 c.toNat ++ ['\x7d']

def escapeChar (c : Char) : List Char :=
  if c = '\x00' then ['\\', '0']
  else if c = '\t' then ['\\', 't']
  else if c = '\r' then ['\\', 'r']
  else if c = '\n' then ['\\', 'n']
  else if c = '\\' ∨ c = '"' then ['\\', c]
  else if isShown c then [c]
  else codeEscape c

def quoted (text : List Char) : List Char := '"' :: text.flatMap escapeChar ++ ['"']

def quotedList (texts : List String) : String :=
  String.intercalate ", " (texts.map fun text => String.ofList (quoted text.toList))

def ticked (text : String) : String := "`" ++ text ++ "`"

end TextTemplate.Text
