import TextTemplate.Decimal.Binary64
import TextTemplate.Decimal.Numeral

/-! Rounding an exact ratio to the nearest binary number, a tie going to the even
significand. Every decimal numeral is read through this one function. -/
namespace TextTemplate.Decimal

/-- The integer nearest to a ratio; halfway between two, the even one. -/
def nearestEven (numerator denominator : Nat) : Nat :=
  let quotient := numerator / denominator
  let twice := 2 * (numerator % denominator)
  if denominator < twice ∨ (denominator = twice ∧ quotient % 2 = 1) then quotient + 1 else quotient

def scaleRatio (numerator denominator : Nat) (exponent : Int) : Nat × Nat :=
  if 0 ≤ exponent then (numerator, denominator <<< exponent.toNat)
  else (numerator <<< (-exponent).toNat, denominator)

namespace Magnitude

/-- The exponent that gives a positive ratio a full significand, or the least one. -/
def exponentOf (numerator denominator : Nat) : Int :=
  let guess : Int := (numerator.log2 : Int) - denominator.log2 - 53
  let (scaled, unit) := scaleRatio numerator denominator guess
  max (-1074) (if scaled / unit < 1 <<< 53 then guess else guess + 1)

/-- The nearest magnitude, or `none` when the ratio rounds beyond the greatest. -/
def ofRatio? (numerator denominator : Nat) : Option Magnitude :=
  if numerator = 0 then some zero
  else
    let exponent := exponentOf numerator denominator
    let (scaled, unit) := scaleRatio numerator denominator exponent
    let significand := nearestEven scaled unit
    if significand = 1 <<< 53 then ofParts? (1 <<< 52) (exponent + 1)
    else ofParts? significand exponent

end Magnitude

namespace Numeral

/-- The magnitude of a numeral. Powers of ten that settle the answer alone are not
computed: `10 ^ 330` is above every magnitude and `10 ^ -330` rounds to zero. -/
def magnitude? (numeral : Numeral) : Option Magnitude :=
  let coefficient := numeral.coefficient
  if coefficient = 0 then some .zero
  else if 330 < numeral.exponent then none
  else if numeral.exponent < -((coefficient.log2 : Int) + 331) then some .zero
  else if 0 ≤ numeral.exponent then Magnitude.ofRatio? (coefficient * Nat.pow 10 numeral.exponent.toNat) 1
  else Magnitude.ofRatio? coefficient (Nat.pow 10 (-numeral.exponent).toNat)

def toBinary64 (numeral : Numeral) : Binary64 :=
  match numeral.magnitude? with
  | some magnitude => .finite numeral.negative magnitude
  | none => .infinite numeral.negative

end Numeral

/-- The names of the values that have no numeral, in any mixture of cases. -/
def named? (negative : Bool) (name : List Char) : Option Binary64 :=
  let folded := name.map Char.toLower
  if folded = "inf".toList ∨ folded = "infinity".toList then some (.infinite negative)
  else if folded = "nan".toList then some .nan
  else none

def Binary64.read? (text : List Char) : Option Binary64 :=
  let (negative, unsigned) := splitSign text
  match named? negative unsigned with
  | some value => some value
  | none => (Numeral.read? text).map Numeral.toBinary64

end TextTemplate.Decimal
