import TextTemplate.Regex.Escape

/-! Bracketed classes: unions of items that nest, and the set operations `&&`, `--` and
`~~` between unions, which bind alike and from the left. -/
namespace TextTemplate.Regex.Bracket

structure Nested where
  chars : CharClass
  depth : Nat

inductive SetOperation where
  | inter
  | minus
  | differ

/-- Applies an operation; under case folding both operands are folded first. -/
def SetOperation.apply (flags : Flags) (operation : SetOperation) (left right : CharClass) :
    CharClass :=
  let left := Escape.foldAndNegate flags false left
  let right := Escape.foldAndNegate flags false right
  match operation with
  | .inter => .inter left right
  | .minus => .minus left right
  | .differ => .differ left right

structure Items where
  chars : CharClass := .none
  count : Nat := 0
  depth : Nat := 0

namespace Items

def push (items : Items) (item : Nested) : Items :=
  ⟨if items.count = 0 then item.chars else .union items.chars item.chars, items.count + 1,
    max items.depth item.depth⟩

/-- A union of several items nests one deeper than its items. -/
def close (items : Items) : Nested :=
  ⟨items.chars, if items.count ≤ 1 then items.depth else items.depth + 1⟩

end Items

structure Level where
  negated : Bool
  waiting : Option (SetOperation × Nested) := none
  items : Items := {}

namespace Level

def combine (flags : Flags) (level : Level) : Nested :=
  let right := level.items.close
  match level.waiting with
  | none => right
  | some (operation, left) =>
    ⟨operation.apply flags left.chars right.chars, max left.depth right.depth + 1⟩

/-- Closes the bracket. Without Unicode there is no negation. -/
def close (flags : Flags) (level : Level) : Except Defect Nested :=
  let inner := level.combine flags
  if level.negated && !flags.unicode then .error .brokenCharacter
  else .ok ⟨Escape.foldAndNegate flags level.negated inner.chars, inner.depth + 1⟩

def push (level : Level) (item : Nested) : Level := { level with items := level.items.push item }

def operate (flags : Flags) (level : Level) (operation : SetOperation) : Level :=
  { level with waiting := some (operation, level.combine flags), items := {} }

end Level

def asciiClass? (name : List Char) : Option (List (Char × Char)) :=
  [("alnum", [('0', '9'), ('A', 'Z'), ('a', 'z')]), ("alpha", [('A', 'Z'), ('a', 'z')]),
    ("ascii", [('\x00', '\x7f')]), ("blank", [('\t', '\t'), (' ', ' ')]),
    ("cntrl", [('\x00', '\x1f'), ('\x7f', '\x7f')]), ("digit", [('0', '9')]),
    ("graph", [('!', '~')]), ("lower", [('a', 'z')]), ("print", [(' ', '~')]),
    ("punct", [('!', '/'), (':', '@'), ('[', '\x60'), ('\x7b', '~')]),
    ("space", [('\t', '\r'), (' ', ' ')]), ("upper", [('A', 'Z')]),
    ("word", [('0', '9'), ('A', 'Z'), ('_', '_'), ('a', 'z')]),
    ("xdigit", [('0', '9'), ('A', 'F'), ('a', 'f')])].lookup (String.ofList name)

/-- Reads `:name:]` or `:^name:]`; any other text is no ASCII class. -/
def readAscii? (text : List Char) : Option (Bool × List (Char × Char) × List Char) :=
  let named (negated : Bool) (rest : List Char) :=
    match rest.dropWhile (· != ':') with
    | ':' :: ']' :: after =>
      (asciiClass? (rest.takeWhile (· != ':'))).map fun pairs => (negated, pairs, after)
    | _ => none
  match text with
  | ':' :: '^' :: rest => named true rest
  | ':' :: rest => named false rest
  | _ => none

/-- The dashes that open a bracket stand for themselves. -/
def readDashes (flags : Flags) : Nat → Items → List Char → Items × List Char
  | 0, items, text => (items, text)
  | fuel + 1, items, text =>
    match flags.skip text with
    | '-' :: rest => readDashes flags fuel (items.push ⟨.single '-', 0⟩) rest
    | rest => (items, rest)

/-- Opens a bracket: a caret negates it, and a closing bracket in the first place is an
item. -/
def openLevel (flags : Flags) (text : List Char) : Except Defect (Level × List Char) :=
  let (negated, start) :=
    match flags.skip text with
    | '^' :: rest => (true, rest)
    | rest => (false, rest)
  match readDashes flags (start.length + 1) {} start with
  | (_, []) => .error .unclosedClass
  | (items, c :: rest) =>
    if c = ']' ∧ items.count = 0 then .ok (⟨negated, none, items.push ⟨.single ']', 0⟩⟩, rest)
    else .ok (⟨negated, none, items⟩, c :: rest)

def readItem (flags : Flags) : List Char → Except Defect (Escape × List Char)
  | [] => .error .unclosedClass
  | c :: rest => if c = '\\' then Escape.read flags rest else .ok (.char c false, rest)

def literal (flags : Flags) (c : Char) : Except Defect Char :=
  if flags.unicode || c.toNat < 128 then .ok c else .error .unicodeOff

def itemClass (flags : Flags) : Escape → Except Defect CharClass
  | .char c _ => (literal flags c).map .single
  | .named chars => .ok chars
  | .anchor _ => .error .classItem

/-- Whether a dash continues a range: not when a closing bracket or a dash follows it. -/
def continues (flags : Flags) (text : List Char) : Bool :=
  match flags.skip text with
  | [] => true
  | c :: _ => c != ']' && c != '-'

def readRange (flags : Flags) (text : List Char) : Except Defect (CharClass × List Char) := do
  let (first, after) ← readItem flags text
  match flags.skip after with
  | [] => .error .unclosedClass
  | '-' :: rest =>
    if continues flags rest then
      let (second, behind) ← readItem flags (flags.skip rest)
      match first, second with
      | .char low _, .char high _ =>
        let low ← literal flags low
        let high ← literal flags high
        if high < low then .error .classRange else .ok (.range low.toNat high.toNat, behind)
      | _, _ => .error .classRange
    else do .ok (← itemClass flags first, '-' :: rest)
  | start => do .ok (← itemClass flags first, start)

def readLevels (flags : Flags) : Nat → Level → List Level → List Char →
    Except Defect (Nested × List Char)
  | 0, _, _, _ => .error .unclosedClass
  | fuel + 1, level, outer, text =>
    match flags.skip text with
    | [] => .error .unclosedClass
    | '[' :: rest =>
      match readAscii? rest with
      | some (negated, pairs, after) =>
        if negated && !flags.unicode then .error .brokenCharacter
        else
          let chars := Escape.foldAndNegate flags negated (.ofPairs pairs)
          readLevels flags fuel (level.push ⟨chars, 0⟩) outer after
      | none => do
        let (inner, after) ← openLevel flags rest
        readLevels flags fuel inner (level :: outer) after
    | ']' :: rest => do
      let closed ← level.close flags
      match outer with
      | [] => .ok (closed, rest)
      | parent :: outer => readLevels flags fuel (parent.push closed) outer rest
    | '&' :: '&' :: rest => readLevels flags fuel (level.operate flags .inter) outer rest
    | '-' :: '-' :: rest => readLevels flags fuel (level.operate flags .minus) outer rest
    | '~' :: '~' :: rest => readLevels flags fuel (level.operate flags .differ) outer rest
    | start => do
      let (chars, after) ← readRange flags start
      readLevels flags fuel (level.push ⟨chars, 0⟩) outer after

def read (flags : Flags) (text : List Char) : Except Defect (Nested × List Char) := do
  let (level, rest) ← openLevel flags text
  readLevels flags (text.length + 1) level [] rest

end TextTemplate.Regex.Bracket
