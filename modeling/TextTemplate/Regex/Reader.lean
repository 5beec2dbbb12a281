import TextTemplate.Regex.Bracket
import TextTemplate.Regex.Pattern

/-! Reading a pattern: one piece of text at a time is taken into the innermost open
group, which holds its finished alternatives and the items of the one in progress. -/
namespace TextTemplate.Regex

/-- An item of a sequence. Flags are an item that matches the empty text and cannot be
repeated; `depth` is how deep the text nests that the item was read from. -/
structure Item where
  pattern : Pattern
  depth : Nat := 0
  repeatable : Bool := true

/-- An open group: the index under which it captures, the flags to restore at its end,
and what it holds so far, last first. -/
structure Level where
  index : Option Nat
  restored : Flags
  alternatives : List Item := []
  items : List Item := []

namespace Level

def sequence (level : Level) : Item :=
  match level.items with
  | [] => { pattern := .empty }
  | [only] => only
  | items =>
    { pattern := .seqs (items.reverse.map Item.pattern)
      depth := (items.map Item.depth).foldl max 0 + 1 }

/-- The alternatives, with the sequence in progress as the last. -/
def choice (level : Level) : Item :=
  match level.alternatives with
  | [] => level.sequence
  | alternatives =>
    let all := level.sequence :: alternatives
    { pattern := .alts (all.reverse.map Item.pattern)
      depth := (all.map Item.depth).foldl max 0 + 1 }

def push (level : Level) (item : Item) : Level := { level with items := item :: level.items }

def alternate (level : Level) : Level :=
  { level with alternatives := level.sequence :: level.alternatives, items := [] }

def close (level : Level) : Item :=
  let inner := level.choice
  match level.index with
  | some index => { pattern := .group index inner.pattern, depth := inner.depth + 1 }
  | none => { pattern := inner.pattern, depth := inner.depth + 1 }

end Level

structure Reader where
  flags : Flags
  level : Level
  outer : List Level := []
  groups : Nat := 0
  names : List (List Char) := []

namespace Reader

def start (flags : Flags) : Reader := { flags, level := { index := none, restored := flags } }

def push (reader : Reader) (item : Item) : Reader := { reader with level := reader.level.push item }

def pushPattern (reader : Reader) (pattern : Pattern) : Reader := reader.push { pattern }

def descend (reader : Reader) (index : Option Nat) (flags : Flags) : Reader :=
  { reader with
    flags
    level := { index, restored := reader.flags }
    outer := reader.level :: reader.outer }

def capture (reader : Reader) : Reader :=
  { reader.descend (some (reader.groups + 1)) reader.flags with groups := reader.groups + 1 }

def ascend (reader : Reader) : Except Defect Reader :=
  match reader.outer with
  | [] => .error .unopenedGroup
  | parent :: outer =>
    .ok { reader with
      flags := reader.level.restored
      level := parent.push reader.level.close
      outer }

/-- A letter opens a name; letters, digits and a few marks continue it. -/
def isNameChar (first : Bool) (c : Char) : Bool :=
  let alphabetic := (Unicode.propertyRanges "alphabetic").contains c.toNat
  if first then c == '_' || alphabetic
  else c == '_' || c == '.' || c == '[' || c == ']' || alphabetic ||
    (CharClass.ofTables (Unicode.categoryRanges ["nd", "nl", "no"])).has c

def isGroupName : List Char → Bool
  | [] => false
  | first :: rest => isNameChar true first && rest.all (isNameChar false)

def captureNamed (reader : Reader) (text : List Char) : Except Defect (Reader × List Char) :=
  let name := text.takeWhile (· != '>')
  match text.dropWhile (· != '>') with
  | [] => .error .groupName
  | _ :: rest =>
    if !isGroupName name then .error .groupName
    else if reader.names.contains name then .error .repeatedName
    else .ok ({ reader.capture with names := name :: reader.names }, rest)

/-- Flags before a colon or a closing parenthesis: letters to set, and behind one dash
letters to clear, none of them twice. -/
def readFlags (flags : Flags) (seen : List Char) (clearing : Bool) :
    List Char → Except Defect (Flags × List Char × List Char)
  | [] => .error .flag
  | c :: rest =>
    if c = ':' ∨ c = ')' then
      if seen.head? = some '-' then .error .flag else .ok (flags, seen, c :: rest)
    else if seen.contains c then .error .flag
    else if c = '-' then readFlags flags (c :: seen) true rest
    else
      match flags.assign? (!clearing) c with
      | some assigned => readFlags assigned (c :: seen) clearing rest
      | none => .error .flag

/-- What follows an opening parenthesis and a question mark: flags for the rest of the
group, or flags for a group of their own. -/
def openFlagged (reader : Reader) (text : List Char) : Except Defect (Reader × List Char) := do
  match ← readFlags reader.flags [] false text with
  | (flags, seen, ')' :: rest) =>
    if seen.isEmpty then .error .nothingToRepeat
    else .ok ({ reader.push { pattern := .empty, repeatable := false } with flags }, rest)
  | (flags, _, rest) => .ok (reader.descend none flags, rest.drop 1)

def openGroup (reader : Reader) (text : List Char) : Except Defect (Reader × List Char) :=
  match reader.flags.skip text with
  | '?' :: '=' :: _ => .error .lookAround
  | '?' :: '!' :: _ => .error .lookAround
  | '?' :: '<' :: '=' :: _ => .error .lookAround
  | '?' :: '<' :: '!' :: _ => .error .lookAround
  | '?' :: 'P' :: '<' :: rest => reader.captureNamed rest
  | '?' :: '<' :: rest => reader.captureNamed rest
  | '?' :: rest => reader.openFlagged rest
  | rest => .ok (reader.capture, rest)

def repeatLast (reader : Reader) (greedy : Bool) (least : Nat) (most : Option Nat) :
    Except Defect Reader :=
  match reader.level.items with
  | [] => .error .nothingToRepeat
  | item :: items =>
    if item.repeatable then
      let repeated : Item :=
        { pattern := .repeated (greedy != reader.flags.swapGreed) least most item.pattern
          depth := item.depth + 1 }
      .ok { reader with level := { reader.level with items := repeated :: items } }
    else .error .nothingToRepeat

/-- A repetition mark; a question mark right behind it makes the loop lazy. -/
def repeatMark (reader : Reader) (least : Nat) (most : Option Nat) :
    List Char → Except Defect (Reader × List Char)
  | '?' :: rest => (reader.repeatLast false least most).map (·, rest)
  | rest => (reader.repeatLast true least most).map (·, rest)

/-- Digits with blanks around them, and among them where blanks are ignored. -/
def readCount (flags : Flags) (text : List Char) : Except Defect (Nat × List Char) :=
  let rec digits : Nat → List Char → List Char × List Char
    | 0, text => ([], text)
    | fuel + 1, text =>
      match text with
      | [] => ([], [])
      | c :: rest =>
        if c.isDigit then
          let (run, after) := digits fuel (flags.skip rest)
          (c :: run, after)
        else ([], c :: rest)
  let (run, after) := digits (text.length + 1) (Text.trimStart text)
  let count := Nat.ofDigitChars 10 run 0
  if run.isEmpty || UInt32.size ≤ count then .error .repetition
  else .ok (count, flags.skip (Text.trimStart after))

/-- A counted repetition: an exact count, a least count, or both bounds. -/
def readCounts (flags : Flags) (text : List Char) :
    Except Defect (Nat × Option Nat × List Char) := do
  let (least, after) ← readCount flags (flags.skip text)
  match after with
  | '\x7d' :: rest => .ok (least, some least, rest)
  | ',' :: rest =>
    match flags.skip rest with
    | '\x7d' :: rest => .ok (least, none, rest)
    | start =>
      let (most, behind) ← readCount flags start
      match behind with
      | '\x7d' :: rest => if most < least then .error .repetition else .ok (least, some most, rest)
      | _ => .error .repetition
  | _ => .error .repetition

def repeatCounted (reader : Reader) (text : List Char) : Except Defect (Reader × List Char) := do
  let (least, most, rest) ← readCounts reader.flags text
  reader.repeatMark least most (reader.flags.skip rest)

def literal (flags : Flags) (byte : Bool) (c : Char) : Except Defect Pattern :=
  if flags.unicode then .ok (.set (Escape.foldAndNegate flags false (.single c)))
  else if byte && 128 ≤ c.toNat then .error .brokenCharacter
  else if !flags.ignoreCase then .ok (.set (.single c))
  else if 128 ≤ c.toNat then .error .unicodeOff
  else .ok (.set (.folded true (.single c)))

/-- Any character but the ends of lines, and under a flag those as well. -/
def dot (flags : Flags) : Except Defect Pattern :=
  if !flags.unicode then .error .brokenCharacter
  else if flags.dotAll then .ok (.set .all)
  else if flags.pairLines then .ok (.set (.complement (.union (.single '\r') (.single '\n'))))
  else .ok (.set (.complement (.single '\n')))

def lineStart (flags : Flags) : Anchor :=
  if !flags.multiLine then .textStart else if flags.pairLines then .pairLineStart else .lineStart

def lineEnd (flags : Flags) : Anchor :=
  if !flags.multiLine then .textEnd else if flags.pairLines then .pairLineEnd else .lineEnd

def escaped (flags : Flags) : Escape → Except Defect Pattern
  | .char c byte => literal flags byte c
  | .named chars => .ok (.set chars)
  | .anchor anchor => .ok (.look anchor)

def step (reader : Reader) (c : Char) (rest : List Char) : Except Defect (Reader × List Char) :=
  match c with
  | '(' => reader.openGroup rest
  | ')' => reader.ascend.map (·, rest)
  | '|' => .ok ({ reader with level := reader.level.alternate }, rest)
  | '[' => do
    let (chars, after) ← Bracket.read reader.flags rest
    .ok (reader.push { pattern := .set chars.chars, depth := chars.depth }, after)
  | '?' => reader.repeatMark 0 (some 1) rest
  | '*' => reader.repeatMark 0 none rest
  | '+' => reader.repeatMark 1 none rest
  | '\x7b' => reader.repeatCounted rest
  | '\\' => do
    let (escape, after) ← Escape.read reader.flags rest
    .ok (reader.pushPattern (← escaped reader.flags escape), after)
  | '.' => do .ok (reader.pushPattern (← dot reader.flags), rest)
  | '^' => .ok (reader.pushPattern (.look (lineStart reader.flags)), rest)
  | '$' => .ok (reader.pushPattern (.look (lineEnd reader.flags)), rest)
  | c => do .ok (reader.pushPattern (← literal reader.flags false c), rest)

/-- Reads the whole text; every step takes a character at least, which bounds them. -/
def run : Nat → Reader → List Char → Except Defect Reader
  | 0, _, _ => .error .tooDeep
  | fuel + 1, reader, text =>
    match reader.flags.skip text with
    | [] => .ok reader
    | c :: rest =>
      match reader.step c rest with
      | .ok (next, after) => run fuel next after
      | .error defect => .error defect

def depthLimit : Nat := 250

/-- The most that a matching machine may take, in bytes. -/
def weightLimit : Nat := 10 * (1 <<< 20)

end Reader

def Pattern.read (flags : Flags) (text : List Char) : Except Defect Pattern := do
  let reader ← (Reader.start flags).run (text.length + 1) text
  if !reader.outer.isEmpty then .error .unclosedGroup
  else
    let whole := reader.level.choice
    if Reader.depthLimit < whole.depth then .error .tooDeep
    else if Reader.weightLimit < whole.pattern.weight then .error .tooLarge
    else .ok whole.pattern

end TextTemplate.Regex
