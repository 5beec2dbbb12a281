import TextTemplate.Data.Json

/-! Reading JSON documents. -/
namespace TextTemplate.Json

open Decimal

def isBlank (c : Char) : Bool := c == ' ' || c == '\n' || c == '\t' || c == '\r'

def skip (text : List Char) : List Char := text.dropWhile isBlank

def hexValue? (c : Char) : Option Nat :=
  if c.isDigit then some (c.toNat - '0'.toNat)
  else if 'a' ≤ c && c ≤ 'f' then some (c.toNat - 'a'.toNat + 10)
  else if 'A' ≤ c && c ≤ 'F' then some (c.toNat - 'A'.toNat + 10)
  else none

def readUnit? : List Char → Option (Nat × List Char)
  | a :: b :: c :: d :: rest => do
    some ((((← hexValue? a) * 16 + (← hexValue? b)) * 16 + (← hexValue? c)) * 16 + (← hexValue? d), rest)
  | _ => none

/-- A character by code; a high surrogate takes the low surrogate behind it. -/
def readCode? (text : List Char) : Option (Char × List Char) := do
  let (unit, rest) ← readUnit? text
  if 0xD800 ≤ unit && unit < 0xDC00 then
    match rest with
    | '\\' :: 'u' :: rest =>
      let (low, rest) ← readUnit? rest
      if 0xDC00 ≤ low && low < 0xE000 then
        some (Char.ofNat (0x10000 + (unit - 0xD800) * 0x400 + (low - 0xDC00)), rest)
      else none
    | _ => none
  else if 0xDC00 ≤ unit && unit < 0xE000 then none
  else some (Char.ofNat unit, rest)

def escape? : Char → Option Char
  | '"' => some '"'
  | '\\' => some '\\'
  | '/' => some '/'
  | 'b' => some '\x08'
  | 'f' => some '\x0C'
  | 'n' => some '\n'
  | 'r' => some '\r'
  | 't' => some '\t'
  | _ => none

/-- The content of a string and the text behind its closing quote; what has been read
comes last first. -/
def readString? (read : List Char) : Nat → List Char → Option (List Char × List Char)
  | 0, _ => none
  | fuel + 1, text =>
    match text with
    | [] => none
    | '"' :: rest => some (read.reverse, rest)
    | '\\' :: 'u' :: rest =>
      match readCode? rest with
      | some (c, rest) => readString? (c :: read) fuel rest
      | none => none
    | '\\' :: c :: rest =>
      match escape? c with
      | some c => readString? (c :: read) fuel rest
      | none => none
    | c :: rest => if c.toNat < 32 then none else readString? (c :: read) fuel rest

def inNumber (c : Char) : Bool :=
  c.isDigit || c == '-' || c == '+' || c == '.' || c == 'e' || c == 'E'

/-- Whether an unsigned numeral begins without a needless zero, and no point lacks digits. -/
def wellFormed (unsigned : List Char) : Bool :=
  let whole := unsigned.takeWhile Char.isDigit
  let fraction := (unsigned.dropWhile Char.isDigit).takeWhile fun c => c == '.' || c.isDigit
  !whole.isEmpty && (whole.head? != some '0' || whole.length == 1) && fraction != ['.']

/-- A number without point and power of ten is an integer if sixty-four bits hold it;
a negative zero is a float. -/
def readNumber? (written : List Char) : Option Number :=
  let (negative, unsigned) :=
    match written with
    | '-' :: rest => (true, rest)
    | rest => (false, rest)
  if !wellFormed unsigned then none
  else
    match readDigits? unsigned with
    | some magnitude =>
      let value := applySign negative magnitude
      if Int64.minValue.toInt ≤ value ∧ value < UInt64.size ∧ ¬(negative ∧ magnitude = 0) then some (.integer value)
      else some (.float (Numeral.toBinary64 ⟨negative, magnitude, 0⟩))
    | none =>
      (Numeral.read? unsigned).bind fun numeral =>
        match numeral.magnitude? with
        | some magnitude => some (.float (.finite negative magnitude))
        | none => none

mutual

/-- Reads a document and the text behind it; the fuel bounds the steps. -/
def readValue? : Nat → List Char → Option (Json × List Char)
  | 0, _ => none
  | fuel + 1, text =>
    match skip text with
    | 'n' :: 'u' :: 'l' :: 'l' :: rest => some (.null, rest)
    | 't' :: 'r' :: 'u' :: 'e' :: rest => some (.bool true, rest)
    | 'f' :: 'a' :: 'l' :: 's' :: 'e' :: rest => some (.bool false, rest)
    | '"' :: rest => do
      let (content, after) ← readString? [] (rest.length + 1) rest
      some (.string (String.ofList content), after)
    | '[' :: rest =>
      match skip rest with
      | ']' :: after => some (.array [], after)
      | start => (readItems? fuel start).map fun (items, after) => (.array items, after)
    | '\x7b' :: rest =>
      match skip rest with
      | '\x7d' :: after => some (.object [], after)
      | start => (readMembers? fuel start).map fun (members, after) => (ofMembers members, after)
    | start =>
      (readNumber? (start.takeWhile inNumber)).map fun number =>
        (.number number, start.dropWhile inNumber)

def readItems? : Nat → List Char → Option (List Json × List Char)
  | 0, _ => none
  | fuel + 1, text => do
    let (item, after) ← readValue? fuel text
    match skip after with
    | ',' :: rest => do
      let (items, behind) ← readItems? fuel rest
      some (item :: items, behind)
    | ']' :: rest => some ([item], rest)
    | _ => none

def readMembers? : Nat → List Char → Option (List (String × Json) × List Char)
  | 0, _ => none
  | fuel + 1, text =>
    match skip text with
    | '"' :: rest => do
      let (name, after) ← readString? [] (rest.length + 1) rest
      match skip after with
      | ':' :: start => do
        let (value, after) ← readValue? fuel start
        match skip after with
        | ',' :: rest => do
          let (members, behind) ← readMembers? fuel rest
          some ((String.ofList name, value) :: members, behind)
        | '\x7d' :: rest => some ([(String.ofList name, value)], rest)
        | _ => none
      | _ => none
    | _ => none

end

def read? (text : String) : Option Json := do
  let (document, rest) ← readValue? (2 * text.length + 2) text.toList
  if (skip rest).isEmpty then some document else none

end TextTemplate.Json
