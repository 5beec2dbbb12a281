import TextTemplate.Regex.CharClass

/-! Anchors: conditions on the place between two characters. Each looks only at the
character before it and the character behind it. -/
namespace TextTemplate.Regex

inductive Anchor where
  | textStart
  | textEnd
  | lineStart
  | lineEnd
  /-- Line ends under the convention that carriage return and line feed end a line,
  alone or as a pair. -/
  | pairLineStart
  | pairLineEnd
  | boundary (ascii : Bool)
  | noBoundary (ascii : Bool)
  | wordStart (ascii : Bool)
  | wordEnd (ascii : Bool)
  | wordStartHalf (ascii : Bool)
  | wordEndHalf (ascii : Bool)
deriving DecidableEq

namespace Anchor

def inWord (ascii : Bool) : Option Char → Bool
  | none => false
  | some c => (if ascii then CharClass.asciiWord else CharClass.word).has c

def holds (anchor : Anchor) (before after : Option Char) : Bool :=
  match anchor with
  | .textStart => before.isNone
  | .textEnd => after.isNone
  | .lineStart => before.isNone || before == some '\n'
  | .lineEnd => after.isNone || after == some '\n'
  | .pairLineStart =>
    before.isNone || before == some '\n' || (before == some '\r' && after != some '\n')
  | .pairLineEnd =>
    after.isNone || after == some '\r' || (after == some '\n' && before != some '\r')
  | .boundary ascii => inWord ascii before != inWord ascii after
  | .noBoundary ascii => inWord ascii before == inWord ascii after
  | .wordStart ascii => !inWord ascii before && inWord ascii after
  | .wordEnd ascii => inWord ascii before && !inWord ascii after
  | .wordStartHalf ascii => !inWord ascii before
  | .wordEndHalf ascii => !inWord ascii after

end Anchor

end TextTemplate.Regex
