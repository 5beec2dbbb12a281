/-! Binary floating-point numbers of 64 bits. A finite number is a sign and a
magnitude `significand · 2 ^ exponent` in its one normalised form, so two finite
numbers are the same value exactly when they are equal, the two zeros apart. -/
namespace TextTemplate.Decimal

/-- A finite magnitude. The significand is full unless the exponent is the least one. -/
structure Magnitude where
  significand : Nat
  exponent : Int
  bounded : significand < 1 <<< 53
  lowest : -1074 ≤ exponent
  highest : exponent ≤ 971
  normalised : 1 <<< 52 ≤ significand ∨ exponent = -1074
deriving DecidableEq

namespace Magnitude

def zero : Magnitude := ⟨0, -1074, by decide, by decide, by decide, by decide⟩

def isZero (magnitude : Magnitude) : Bool := magnitude.significand == 0

def floor (magnitude : Magnitude) : Nat :=
  if 0 ≤ magnitude.exponent then magnitude.significand <<< magnitude.exponent.toNat
  else magnitude.significand >>> (-magnitude.exponent).toNat

def isWhole (magnitude : Magnitude) : Bool :=
  decide (0 ≤ magnitude.exponent) || magnitude.significand % (1 <<< (-magnitude.exponent).toNat) == 0

def ofParts? (significand : Nat) (exponent : Int) : Option Magnitude :=
  if bounded : significand < 1 <<< 53 then
    if lowest : -1074 ≤ exponent then
      if highest : exponent ≤ 971 then
        if normalised : 1 <<< 52 ≤ significand ∨ exponent = -1074 then
          some ⟨significand, exponent, bounded, lowest, highest, normalised⟩
        else none
      else none
    else none
  else none

end Magnitude

inductive Binary64 where
  | finite (negative : Bool) (magnitude : Magnitude)
  | infinite (negative : Bool)
  | nan
deriving DecidableEq

namespace Binary64

/-- Numeric equality: the two zeros are equal, and `nan` differs from everything. -/
def equal : Binary64 → Binary64 → Bool
  | .finite negative magnitude, .finite negative' magnitude' =>
    magnitude == magnitude' && (negative == negative' || magnitude.isZero)
  | .infinite negative, .infinite negative' => negative == negative'
  | _, _ => false

instance : BEq Binary64 := ⟨equal⟩

def subnormal (fraction : Nat) (fits : fraction < 1 <<< 52) : Magnitude :=
  ⟨fraction, -1074, by omega, by omega, by omega, by omega⟩

def normal (fraction field : Nat) (fits : fraction < 1 <<< 52) (present : field ≠ 0)
    (ordinary : field < 2047) : Magnitude :=
  ⟨(1 <<< 52) + fraction, (field : Int) - 1075, by omega, by omega, by omega, by omega⟩

/-- Decodes the interchange format: one sign bit, eleven exponent bits with bias
1023, fifty-two fraction bits. -/
def ofBits (bits : UInt64) : Binary64 :=
  let negative := decide (1 <<< 63 ≤ bits.toNat)
  if special : (bits.toNat >>> 52) % 2048 = 2047 then
    if bits.toNat % (1 <<< 52) = 0 then .infinite negative else .nan
  else if least : (bits.toNat >>> 52) % 2048 = 0 then
    .finite negative (subnormal (bits.toNat % (1 <<< 52)) (Nat.mod_lt _ (by decide)))
  else
    .finite negative (normal (bits.toNat % (1 <<< 52)) ((bits.toNat >>> 52) % 2048)
      (Nat.mod_lt _ (by decide)) least (by omega))

/-- Encodes the interchange format; `nan` is written with the quiet bit alone. -/
def toBits : Binary64 → UInt64
  | .finite negative magnitude =>
    let unsigned :=
      if magnitude.significand < 1 <<< 52 then magnitude.significand
      else ((magnitude.exponent + 1075).toNat <<< 52) + (magnitude.significand - 1 <<< 52)
    UInt64.ofNat (unsigned + (negative.toNat <<< 63))
  | .infinite negative => UInt64.ofNat ((2047 <<< 52) + (negative.toNat <<< 63))
  | .nan => UInt64.ofNat ((2047 <<< 52) + (1 <<< 51))

/-- Drops the fraction and clamps to the range of a 64-bit integer; `nan` becomes zero. -/
def truncate : Binary64 → Int64
  | .finite negative magnitude =>
    Int64.ofIntClamp (if negative then -(magnitude.floor : Int) else magnitude.floor)
  | .infinite negative => if negative then Int64.minValue else Int64.maxValue
  | .nan => 0

end Binary64

end TextTemplate.Decimal
