import TextTemplate.Text.Blank

/-! Flags of a pattern: they hold from where they are set to the end of the group. -/
namespace TextTemplate.Regex

structure Flags where
  ignoreCase : Bool := false
  multiLine : Bool := false
  dotAll : Bool := false
  swapGreed : Bool := false
  ignoreBlank : Bool := false
  pairLines : Bool := false
  unicode : Bool := true
deriving DecidableEq

namespace Flags

def assign? (flags : Flags) (value : Bool) : Char → Option Flags
  | 'i' => some { flags with ignoreCase := value }
  | 'm' => some { flags with multiLine := value }
  | 's' => some { flags with dotAll := value }
  | 'U' => some { flags with swapGreed := value }
  | 'x' => some { flags with ignoreBlank := value }
  | 'R' => some { flags with pairLines := value }
  | 'u' => some { flags with unicode := value }
  | _ => none

def skipBlanks (inComment : Bool) : List Char → List Char
  | [] => []
  | c :: rest =>
    if inComment then skipBlanks (c != '\n') rest
    else if Text.isBlank c then skipBlanks false rest
    else if c = '#' then skipBlanks true rest
    else c :: rest

/-- Where blanks are ignored, the text behind them; elsewhere the text itself. -/
def skip (flags : Flags) (text : List Char) : List Char :=
  if flags.ignoreBlank then skipBlanks false text else text

end Flags

end TextTemplate.Regex
