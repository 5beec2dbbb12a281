import TextTemplate.Data.Source

/-! JSON documents: their values, their compact text, and objects as data. -/
namespace TextTemplate

namespace Json

/-- A number is an integer of at most sixty-four bits, signed or not, or a float. -/
inductive Number where
  | integer (value : Int)
  | float (value : Decimal.Binary64)

end Json

inductive Json where
  | null
  | bool (truth : Bool)
  | number (number : Json.Number)
  | string (content : String)
  | array (items : List Json)
  /-- Members ascend by their names, which differ. -/
  | object (members : List (String × Json))

namespace Json

/-- Puts a member into its place; it displaces one of the same name. -/
def insertMember (name : String) (value : Json) : List (String × Json) → List (String × Json)
  | [] => [(name, value)]
  | (other, held) :: rest =>
    if name < other then (name, value) :: (other, held) :: rest
    else if name = other then (name, value) :: rest
    else (other, held) :: insertMember name value rest

/-- The object with these members; the last of a name counts. -/
def ofMembers (members : List (String × Json)) : Json :=
  .object (members.foldl (fun held (name, value) => insertMember name value held) [])

/-- Floats have a point or a power of ten, and powers of ten bear a sign. -/
def floatLayout : Decimal.Layout where
  tie := .even
  positional := fun exponent => -5 ≤ exponent && exponent < 16
  wholeEnd := ".0"
  exponentSign := "+"
  infinite := "null"
  nan := "null"

def Number.text : Number → List Char
  | .integer value => Decimal.intDigits value
  | .float value => floatLayout.write value

def controlEscape (c : Char) : List Char :=
  let digits := Nat.toDigits 16 c.toNat
  ['\\', 'u', '0', '0'] ++ List.replicate (2 - digits.length) '0' ++ digits

def escapeChar (c : Char) : List Char :=
  if c = '"' ∨ c = '\\' then ['\\', c]
  else if c = '\x08' then ['\\', 'b']
  else if c = '\x0C' then ['\\', 'f']
  else if c = '\n' then ['\\', 'n']
  else if c = '\r' then ['\\', 'r']
  else if c = '\t' then ['\\', 't']
  else if c.toNat < 32 then controlEscape c
  else [c]

def stringText (content : String) : List Char :=
  '"' :: content.toList.flatMap escapeChar ++ ['"']

mutual

def text : Json → List Char
  | .null => "null".toList
  | .bool truth => (if truth then "true" else "false").toList
  | .number value => value.text
  | .string content => stringText content
  | .array [] => ['[', ']']
  | .array (first :: rest) => '[' :: first.text ++ itemsText rest ++ [']']
  | .object [] => ['\x7b', '\x7d']
  | .object ((name, value) :: rest) =>
    '\x7b' :: stringText name ++ ':' :: value.text ++ membersText rest ++ ['\x7d']

def itemsText : List Json → List Char
  | [] => []
  | item :: rest => ',' :: item.text ++ itemsText rest

def membersText : List (String × Json) → List Char
  | [] => []
  | (name, value) :: rest => ',' :: stringText name ++ ':' :: value.text ++ membersText rest

end

def nearestFloat (value : Int) : Decimal.Binary64 :=
  Decimal.Numeral.toBinary64 ⟨value < 0, value.natAbs, 0⟩

/-- A document as a value: null is absent, integers beyond the signed range are floats,
and arrays and objects are their text. -/
def scalar? : Json → Option Value
  | .null => none
  | .bool truth => some (.bool truth)
  | .number (.integer value) =>
    if Int64.minValue.toInt ≤ value ∧ value ≤ Int64.maxValue.toInt then
      some (.int (Int64.ofIntClamp value))
    else some (.float (nearestFloat value))
  | .number (.float value) => some (.float value)
  | .string content => some (.str content)
  | document => some (.str (String.ofList document.text))

/-- The members of an object as data; any other document has no keys. -/
def data : Json → Data
  | .object members => fun key => (members.lookup key).bind scalar?
  | _ => Data.none

end Json

end TextTemplate
