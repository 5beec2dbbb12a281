import TextTemplate.Decimal.Shortest

/-! Writing a binary number in decimal. The digits are the shortest that read back; a
layout decides where the point stands and when a power of ten is written instead. -/
namespace TextTemplate.Decimal

structure Layout where
  tie : Tie
  /-- The exponents of the first digit that are written without a power of ten. -/
  positional : Int → Bool
  /-- What follows the digits of a whole number. -/
  wholeEnd : String
  /-- What stands before an exponent that is not negative. -/
  exponentSign : String
  infinite : String
  nan : String

def digits (number : Nat) : List Char := Nat.toDigits 10 number

def intDigits (number : Int) : List Char :=
  if number < 0 then '-' :: digits number.natAbs else digits number.natAbs

namespace Layout

/-- All digits with the point among them and zeros where a place has no digit. -/
def place (layout : Layout) (significant : List Char) (exponent : Int) : List Char :=
  if 0 ≤ exponent then
    significant ++ List.replicate exponent.toNat '0' ++ layout.wholeEnd.toList
  else
    let behind := (-exponent).toNat
    if behind < significant.length then
      significant.take (significant.length - behind) ++
        '.' :: significant.drop (significant.length - behind)
    else '0' :: '.' :: List.replicate (behind - significant.length) '0' ++ significant

def scientific (layout : Layout) (significant : List Char) (leading : Int) : List Char :=
  let power :=
    if leading < 0 then '-' :: digits (-leading).toNat
    else layout.exponentSign.toList ++ digits leading.toNat
  match significant with
  | [] => []
  | [only] => only :: 'e' :: power
  | first :: rest => first :: '.' :: rest ++ 'e' :: power

def magnitude (layout : Layout) (magnitude : Magnitude) : List Char :=
  let (significand, exponent) := magnitude.shortest layout.tie
  let significant := digits significand
  let leading := exponent + significant.length - 1
  if layout.positional leading then layout.place significant exponent
  else layout.scientific significant leading

def write (layout : Layout) : Binary64 → List Char
  | .finite negative value => (if negative then ['-'] else []) ++ layout.magnitude value
  | .infinite negative => (if negative then ['-'] else []) ++ layout.infinite.toList
  | .nan => layout.nan.toList

end Layout

end TextTemplate.Decimal
