import TextTemplate.Unicode.Category
import TextTemplate.Unicode.Folding
import TextTemplate.Unicode.Property
import TextTemplate.Unicode.Ranges

/-! Classes of characters, as the set expressions that a pattern writes down. A class is
decided one code point at a time, so no class is ever spelled out as ranges. -/
namespace TextTemplate.Regex

open Unicode

inductive CharClass where
  | none
  | all
  | range (low high : Nat)
  | table (ranges : Ranges)
  | union (first second : CharClass)
  | inter (first second : CharClass)
  | minus (first second : CharClass)
  | differ (first second : CharClass)
  | complement (inner : CharClass)
  /-- What folds together with a member; under `ascii` only the ASCII letters fold. -/
  | folded (ascii : Bool) (inner : CharClass)

/-- The two cases of an ASCII letter, and any other code point alone. -/
def asciiOrbit (code : Nat) : List Nat :=
  if 65 ≤ code && code ≤ 90 then [code, code + 32]
  else if 97 ≤ code && code ≤ 122 then [code, code - 32]
  else [code]

namespace CharClass

def holds : CharClass → Nat → Bool
  | .none, _ => false
  | .all, _ => true
  | .range low high, code => low ≤ code && code ≤ high
  | .table ranges, code => ranges.contains code
  | .union first second, code => first.holds code || second.holds code
  | .inter first second, code => first.holds code && second.holds code
  | .minus first second, code => first.holds code && !second.holds code
  | .differ first second, code => first.holds code != second.holds code
  | .complement inner, code => !inner.holds code
  | .folded ascii inner, code => (if ascii then asciiOrbit code else orbit code).any inner.holds

def has (chars : CharClass) (c : Char) : Bool := chars.holds c.toNat

def single (c : Char) : CharClass := .range c.toNat c.toNat

def unions (classes : List CharClass) : CharClass := classes.foldr .union .none

def ofTables (tables : List Ranges) : CharClass := unions (tables.map .table)

def ofPairs (pairs : List (Char × Char)) : CharClass :=
  unions (pairs.map fun (low, high) => .range low.toNat high.toNat)

/-- Decimal digits of every script. -/
def digit : CharClass := ofTables (categoryRanges ["nd"])

def space : CharClass := .table (propertyRanges "whitespace")

/-- Letters, marks, digits, connectors and joiners. -/
def word : CharClass :=
  ofTables (propertyRanges "alphabetic" ::
    categoryRanges ["mn", "mc", "me", "nd", "pc"] ++ [propertyRanges "joincontrol"])

def asciiDigit : CharClass := ofPairs [('0', '9')]

def asciiSpace : CharClass := ofPairs [('\t', '\r'), (' ', ' ')]

def asciiWord : CharClass := ofPairs [('0', '9'), ('A', 'Z'), ('_', '_'), ('a', 'z')]

/-- A measure of the machinery that a class takes: the UTF-8 forms of its ranges that
lie outside ASCII. -/
def breadth : CharClass → Nat
  | .none => 0
  | .all => 15
  | .range _ high =>
    if high < 0x80 then 0 else if high < 0x800 then 1 else if high < 0x10000 then 3 else 15
  | .table ranges => ranges.countP fun (_, high) => 0x80 ≤ high
  | .union first second => first.breadth + second.breadth
  | .inter first second => first.breadth + second.breadth
  | .minus first second => first.breadth + second.breadth
  | .differ first second => first.breadth + second.breadth
  | .complement inner => inner.breadth + 15
  | .folded _ inner => 2 * inner.breadth

def only? : CharClass → Option Char
  | .range low high => if low = high then some (Char.ofNat low) else .none
  | _ => .none

end CharClass

end TextTemplate.Regex
