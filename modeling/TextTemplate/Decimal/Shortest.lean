import TextTemplate.Decimal.Rounding

/-! The shortest decimal that reads back as a given binary number. Grids of one, two,
up to seventeen significant digits are tried in turn; on each the value has two
neighbours, and the first grid with a neighbour that reads back gives the answer. -/
namespace TextTemplate.Decimal

/-- Which of two equally near neighbours is taken. -/
inductive Tie where
  | up
  | even

namespace Magnitude

def ratio (magnitude : Magnitude) : Nat × Nat :=
  if 0 ≤ magnitude.exponent then (magnitude.significand <<< magnitude.exponent.toNat, 1)
  else (magnitude.significand, 1 <<< (-magnitude.exponent).toNat)

/-- A decimal `digits · 10 ^ exponent` as a ratio. -/
def decimalRatio (digits : Nat) (exponent : Int) : Nat × Nat :=
  if 0 ≤ exponent then (digits * Nat.pow 10 exponent.toNat, 1) else (digits, Nat.pow 10 (-exponent).toNat)

/-- Whether a decimal is rounded to this magnitude when it is read. -/
def readsAs (magnitude : Magnitude) (digits : Nat) (exponent : Int) : Bool :=
  let (numerator, denominator) := decimalRatio digits exponent
  ofRatio? numerator denominator == some magnitude

def leadingExponent (magnitude : Magnitude) : Int :=
  let (numerator, denominator) := magnitude.ratio
  let reaches (exponent : Int) : Bool :=
    let (digits, unit) := decimalRatio 1 exponent
    digits * denominator ≤ numerator * unit
  let guess := ((magnitude.significand.log2 : Int) + magnitude.exponent) * 30103 / 100000
  if reaches (guess + 1) then guess + 1 else if reaches guess then guess else guess - 1

/-- The neighbour that reads back on the grid of `count` digits, the nearer of two. -/
def neighbour? (tie : Tie) (magnitude : Magnitude) (count : Nat) : Option (Nat × Int) :=
  let exponent := magnitude.leadingExponent - (count - 1 : Nat)
  let (numerator, denominator) := magnitude.ratio
  let (step, unit) := decimalRatio 1 exponent
  let scaled := numerator * unit
  let grid := denominator * step
  let below := scaled / grid
  let twice := 2 * (scaled % grid)
  let upward : Bool :=
    match tie with
    | .up => grid ≤ twice
    | .even => grid < twice || (grid == twice && below % 2 == 1)
  match magnitude.readsAs below exponent, magnitude.readsAs (below + 1) exponent with
  | true, true => some (if upward then below + 1 else below, exponent)
  | true, false => some (below, exponent)
  | false, true => some (below + 1, exponent)
  | false, false => none

/-- The fewest digits that read back, and the power of ten that scales them. -/
def shortest (tie : Tie) (magnitude : Magnitude) : Nat × Int :=
  if magnitude.isZero then (0, 0)
  else
    match (List.range 17).findSome? fun fewer => neighbour? tie magnitude (fewer + 1) with
    | some (digits, exponent) =>
      if digits % 10 = 0 then (digits / 10, exponent + 1) else (digits, exponent)
    | none => (magnitude.floor, 0)

end Magnitude

end TextTemplate.Decimal
