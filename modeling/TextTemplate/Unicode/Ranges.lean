/-! Sets of code points as ascending closed ranges, and the notation in which the
property tables are kept: hexadecimal code points, a dash between the two ends of a
range, blanks between ranges. -/
namespace TextTemplate.Unicode

abbrev Ranges := List (Nat × Nat)

namespace Ranges

/-- Membership; the search ends at the first range above the code point. -/
def contains : Ranges → Nat → Bool
  | [], _ => false
  | (low, high) :: rest, code => low ≤ code && (code ≤ high || contains rest code)

end Ranges

namespace Table

def hexDigit (c : Char) : Nat :=
  if c.isDigit then c.toNat - '0'.toNat else c.toNat - 'A'.toNat + 10

def code (digits : List Char) : Nat := digits.foldl (fun total c => 16 * total + hexDigit c) 0

/-- The pieces between separators; an empty piece is dropped. -/
def pieces (separates : Char → Bool) (text : List Char) : List (List Char) :=
  let (piece, later) := text.foldr (fun c (piece, later) =>
    if separates c then ([], if piece.isEmpty then later else piece :: later)
    else (c :: piece, later)) ([], [])
  if piece.isEmpty then later else piece :: later

def entries (text : String) : List (List Char) := pieces (fun c => c == ' ' || c == '\n') text.toList

def range (entry : List Char) : Nat × Nat :=
  match pieces (· == '-') entry with
  | [low, high] => (code low, code high)
  | _ => (code entry, code entry)

def ranges (text : String) : Ranges := (entries text).map range

def codes (entry : List Char) : List Nat := (pieces (· == '+') entry).map code

end Table

end TextTemplate.Unicode
