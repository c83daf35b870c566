/-!
# Double-precision numbers

A finite number is a sign, a significand and a power of two, all exact. Reading a decimal takes the
nearest such number, and of two equally near the one with the even significand.
-/

namespace DashboardGenerator

/-- A double-precision number. The finite ones are the significand times two to the exponent. -/
inductive Binary64 where
  | nan
  | infinity (negative : Bool)
  | finite (negative : Bool) (significand : Nat) (exponent : Int)
deriving Repr, DecidableEq

namespace Binary64

/-- The least exponent, that of the smallest numbers. -/
def leastExponent : Int := -1074

/-- The greatest exponent of a finite number. -/
def greatestExponent : Int := 971

/-- The number is a zero of either sign. -/
def isZero : Binary64 → Bool
  | .finite _ significand _ => significand == 0
  | .nan | .infinity _ => false

/-- The quotient rounded to the nearest natural number, a half to the even neighbour. -/
def roundQuotient (numerator denominator : Nat) : Nat :=
  let quotient := numerator / denominator
  let twice := 2 * (numerator % denominator)
  if twice < denominator then quotient
  else if denominator < twice then quotient + 1
  else quotient + quotient % 2

/-- The quotient of a fraction by a power of two, as a fraction. -/
def scaleDown (numerator denominator : Nat) (exponent : Int) : Nat × Nat :=
  (numerator * Nat.pow 2 (-exponent).toNat, denominator * Nat.pow 2 exponent.toNat)

/-- The exponent at which a positive fraction has a significand of fifty-three bits, or the least
exponent for smaller ones. -/
def exponentOf (numerator denominator : Nat) : Int :=
  let estimate : Int := (Nat.log2 numerator : Int) - Nat.log2 denominator - 53
  let scaled := scaleDown numerator denominator estimate
  let exponent := if Nat.pow 2 53 ≤ scaled.1 / scaled.2 then estimate + 1 else estimate
  max exponent leastExponent

/-- The finite number nearest to a fraction, if the fraction is not too large. -/
def ofFraction? (negative : Bool) (numerator denominator : Nat) : Option Binary64 :=
  if numerator = 0 then some (.finite negative 0 leastExponent)
  else
    let exponent := exponentOf numerator denominator
    let scaled := scaleDown numerator denominator exponent
    let significand := roundQuotient scaled.1 scaled.2
    let (significand, exponent) :=
      if significand = Nat.pow 2 53 then (Nat.pow 2 52, exponent + 1) else (significand, exponent)
    if greatestExponent < exponent then none
    else some (.finite negative significand exponent)

/-- The number of decimal digits of a natural number. -/
def digitCount (value : Nat) : Nat := (Nat.toDigits 10 value).length

/-- The finite number nearest to `digits` times ten to the exponent, if that is not too large.
Decimals far outside the range are decided by their magnitude alone. -/
def ofDecimal? (negative : Bool) (digits : Nat) (exponent : Int) : Option Binary64 :=
  let magnitude := exponent + digitCount digits
  if digits = 0 ∨ magnitude < -330 then some (.finite negative 0 leastExponent)
  else if 310 < magnitude then none
  else ofFraction? negative (digits * Nat.pow 10 exponent.toNat) (Nat.pow 10 (-exponent).toNat)

end Binary64

end DashboardGenerator
