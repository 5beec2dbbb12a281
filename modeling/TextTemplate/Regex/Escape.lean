import TextTemplate.Regex.Anchor
import TextTemplate.Regex.Defect
import TextTemplate.Regex.Flags
import TextTemplate.Unicode.Script

/-! Escapes: what a backslash begins. An escape is a character, a named class or an
anchor. -/
namespace TextTemplate.Regex

inductive Escape where
  /-- A character; `byte` tells that it was written as two hexadecimal digits. -/
  | char (c : Char) (byte : Bool)
  | named (chars : CharClass)
  | anchor (anchor : Anchor)

namespace Escape

def metaCharacters : List Char :=
  ['\\', '.', '+', '*', '?', '(', ')', '|', '[', ']', '\x7b', '\x7d', '^', '$', '#', '&', '-', '~']

/-- Punctuation, blanks and controls of ASCII stand for themselves when escaped. -/
def standsForItself (c : Char) : Bool :=
  metaCharacters.contains c || (c.toNat < 128 && !c.isAlphanum && c != '<' && c != '>')

def control? : Char → Option Char
  | 'a' => some '\x07'
  | 'f' => some '\x0C'
  | 't' => some '\t'
  | 'n' => some '\n'
  | 'r' => some '\r'
  | 'v' => some '\x0B'
  | _ => none

def isHex (c : Char) : Bool :=
  c.isDigit || ('a' ≤ c && c ≤ 'f') || ('A' ≤ c && c ≤ 'F')

def hexChar (digits : List Char) : Except Defect Char :=
  let code := Unicode.Table.code (digits.map Char.toUpper)
  if valid : code.isValidChar then .ok (Char.ofNatAux code valid) else .error .codePoint

/-- Exactly as many digits as asked for. -/
def hexFixed (flags : Flags) : Nat → List Char → Except Defect (List Char × List Char)
  | 0, text => .ok ([], text)
  | count + 1, text =>
    match flags.skip text with
    | [] => .error .danglingEscape
    | c :: rest =>
      if isHex c then (hexFixed flags count rest).map fun (digits, after) => (c :: digits, after)
      else .error .hexDigits

/-- The text up to a closing brace, blanks and comments left out where they are ignored. -/
def braced (flags : Flags) : Nat → List Char → Except Defect (List Char × List Char)
  | 0, _ => .error .danglingEscape
  | fuel + 1, text =>
    match flags.skip text with
    | [] => .error .danglingEscape
    | c :: rest =>
      if c = '\x7d' then .ok ([], rest)
      else (braced flags fuel rest).map fun (inner, after) => (c :: inner, after)

/-- A character by code: digits in braces, or a fixed number of digits. -/
def hex (flags : Flags) (count : Nat) (text : List Char) : Except Defect (Escape × List Char) :=
  match flags.skip text with
  | [] => .error .danglingEscape
  | '\x7b' :: rest => do
    let (digits, after) ← braced flags (rest.length + 1) rest
    if digits.isEmpty || !digits.all isHex then .error .hexDigits
    else .ok (.char (← hexChar digits) false, after)
  | start => do
    let (digits, after) ← hexFixed flags count start
    .ok (.char (← hexChar digits) (count == 2), after)

/-- A property name without blanks, dashes, underscores, case and a leading `is`. -/
def foldName (name : List Char) : List Char :=
  let folds (text : List Char) : List Char :=
    (text.filter fun c => c.toNat < 128 && c != ' ' && c != '_' && c != '-').map Char.toLower
  match name with
  | first :: second :: rest =>
    if first.toLower = 'i' ∧ second.toLower = 's' then
      if folds rest = ['c'] then ['i', 's', 'c'] else folds rest
    else folds name
  | _ => folds name

def category? (name : String) : Option CharClass :=
  if name = "any" then some .all
  else if name = "ascii" then some (.range 0 127)
  else if name = "assigned" then
    (Unicode.category? "cn").map fun tables => .complement (.ofTables tables)
  else (Unicode.category? name).map .ofTables

/-- The class that one folded name stands for: a property, a category or a script. -/
def property? (name : String) : Option CharClass :=
  match Unicode.property? name with
  | some ranges => some (.table ranges)
  | none =>
    match category? name with
    | some chars => some chars
    | none => (Unicode.script? name).map .table

def valued? (property value : String) : Option CharClass :=
  if property = "gc" ∨ property = "generalcategory" then category? value
  else if property = "sc" ∨ property = "script" then (Unicode.script? value).map .table
  else if property = "scx" ∨ property = "scriptextensions" then
    (Unicode.scriptExtensions? value).map fun (held, shared) =>
      .minus (.ofTables held) (.ofTables shared)
  else none

def splitAt? (separator : List Char) : List Char → Option (List Char × List Char)
  | [] => none
  | c :: rest =>
    if separator.isPrefixOf (c :: rest) then some ([], (c :: rest).drop separator.length)
    else (splitAt? separator rest).map fun (before, after) => (c :: before, after)

/-- The class named between braces, and whether the name itself negates it. -/
def propertyClass? (name : List Char) : Option CharClass × Bool :=
  let folded (text : List Char) : String := String.ofList (foldName text)
  match splitAt? ['!', '='] name with
  | some (property, value) => (valued? (folded property) (folded value), true)
  | none =>
    match splitAt? [':'] name with
    | some (property, value) => (valued? (folded property) (folded value), false)
    | none =>
      match splitAt? ['='] name with
      | some (property, value) => (valued? (folded property) (folded value), false)
      | none => (property? (folded name), false)

def foldAndNegate (flags : Flags) (negated : Bool) (chars : CharClass) : CharClass :=
  let folded := if flags.ignoreCase then CharClass.folded (!flags.unicode) chars else chars
  if negated then .complement folded else folded

def propertyEscape (flags : Flags) (negated : Bool) (text : List Char) : Except Defect (Escape × List Char) :=
  match flags.skip text with
  | [] => .error .danglingEscape
  | '\\' :: _ => .error .unknownProperty
  | c :: rest => do
    let (name, after) ← if c = '\x7b' then braced flags (rest.length + 1) rest else .ok ([c], rest)
    if !flags.unicode then .error .unicodeOff
    else
      match propertyClass? name with
      | (none, _) => .error .unknownProperty
      | (some chars, inverted) => .ok (.named (foldAndNegate flags (negated != inverted) chars), after)

/-- A class by one letter. Without Unicode it is the ASCII class, which has no negation:
that would match parts of characters. -/
def letterClass (flags : Flags) (unicode ascii : CharClass) (negated : Bool) : Except Defect Escape :=
  if flags.unicode then .ok (.named (if negated then .complement unicode else unicode))
  else if negated then .error .brokenCharacter
  else .ok (.named ascii)

def wordKind (flags : Flags) : Nat → List Char → List Char × List Char
  | 0, text => ([], text)
  | fuel + 1, text =>
    match flags.skip text with
    | [] => ([], [])
    | c :: rest =>
      if c.isAlpha || c == '-' then
        let (kind, after) := wordKind flags fuel rest
        (c :: kind, after)
      else ([], c :: rest)

/-- A word boundary may name its kind in braces; braces that hold no name belong to a
repetition. -/
def boundary (flags : Flags) (text : List Char) : Except Defect (Escape × List Char) :=
  let ascii := !flags.unicode
  match text with
  | '\x7b' :: rest =>
    match wordKind flags (rest.length + 1) rest with
    | ([], []) => .error .danglingEscape
    | ([], _) => .ok (.anchor (.boundary ascii), text)
    | (kind, after) =>
      match after with
      | '\x7d' :: behind =>
        if kind = "start".toList then .ok (.anchor (.wordStart ascii), behind)
        else if kind = "end".toList then .ok (.anchor (.wordEnd ascii), behind)
        else if kind = "start-half".toList then .ok (.anchor (.wordStartHalf ascii), behind)
        else if kind = "end-half".toList then .ok (.anchor (.wordEndHalf ascii), behind)
        else .error .unknownEscape
      | _ => .error .unknownEscape
  | _ => .ok (.anchor (.boundary ascii), text)

def read (flags : Flags) : List Char → Except Defect (Escape × List Char)
  | [] => .error .danglingEscape
  | c :: rest =>
    let ascii := !flags.unicode
    if standsForItself c then .ok (.char c false, rest)
    else if c.isDigit then .error .backReference
    else
      match control? c with
      | some control => .ok (.char control false, rest)
      | none =>
        match c with
        | 'x' => hex flags 2 rest
        | 'u' => hex flags 4 rest
        | 'U' => hex flags 8 rest
        | 'p' => propertyEscape flags false rest
        | 'P' => propertyEscape flags true rest
        | 'd' => (letterClass flags .digit .asciiDigit false).map (·, rest)
        | 'D' => (letterClass flags .digit .asciiDigit true).map (·, rest)
        | 's' => (letterClass flags .space .asciiSpace false).map (·, rest)
        | 'S' => (letterClass flags .space .asciiSpace true).map (·, rest)
        | 'w' => (letterClass flags .word .asciiWord false).map (·, rest)
        | 'W' => (letterClass flags .word .asciiWord true).map (·, rest)
        | 'A' => .ok (.anchor .textStart, rest)
        | 'z' => .ok (.anchor .textEnd, rest)
        | 'b' => boundary flags rest
        | 'B' => .ok (.anchor (.noBoundary ascii), rest)
        | '<' => .ok (.anchor (.wordStart ascii), rest)
        | '>' => .ok (.anchor (.wordEnd ascii), rest)
        | _ => .error .unknownEscape

end Escape

end TextTemplate.Regex
