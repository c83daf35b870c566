import DashboardGenerator.Number.Binary64

/-!
# The shortest decimal of a double-precision number

Of the decimals that read back as the same number those with the fewest digits are taken, and of
these the nearest, the upper one when two are equally near. They are written without an exponent.
-/

namespace DashboardGenerator.Binary64

/-- The decimals that read back as a positive number lie between two bounds, which belong to them
when the significand is even. All three are kept over one denominator. -/
structure Neighbourhood where
  lower : Nat
  value : Nat
  upper : Nat
  denominator : Nat
  closed : Bool

/-- The neighbourhood of a positive number, reaching half way to the next number on either side.
Below a power of two the next number is half as far. -/
def neighbourhood (significand : Nat) (exponent : Int) : Neighbourhood :=
  let unit := Nat.pow 2 (exponent - 2).toNat
  { lower := (4 * significand - (if significand = Nat.pow 2 52 then 1 else 2)) * unit
    value := 4 * significand * unit
    upper := (4 * significand + 2) * unit
    denominator := Nat.pow 2 (2 - exponent).toNat
    closed := significand % 2 == 0 }

namespace Neighbourhood

/-- The power of ten just above the value. -/
def magnitude (around : Neighbourhood) : Int :=
  if around.denominator ≤ around.value then digitCount (around.value / around.denominator)
  else 1 - digitCount ((around.denominator - 1) / around.value)

/-- The neighbourhood counted in units of a power of ten. -/
def inUnits (around : Neighbourhood) (power : Int) : Neighbourhood :=
  let factor := Nat.pow 10 (-power).toNat
  { around with
    lower := around.lower * factor
    value := around.value * factor
    upper := around.upper * factor
    denominator := around.denominator * Nat.pow 10 power.toNat }

/-- The whole number next to the value, on one side or the other, that lies in the
neighbourhood. -/
def wholeNumber? (around : Neighbourhood) : Option Nat :=
  let below := around.value / around.denominator
  let belowFits :=
    if around.closed then around.lower ≤ below * around.denominator
    else around.lower < below * around.denominator
  let aboveFits :=
    if around.closed then (below + 1) * around.denominator ≤ around.upper
    else (below + 1) * around.denominator < around.upper
  if belowFits ∧ aboveFits then
    if around.denominator ≤ 2 * (around.value % around.denominator) then some (below + 1)
    else some below
  else if belowFits then some below
  else if aboveFits then some (below + 1)
  else none

end Neighbourhood

/-- The most digits that a shortest decimal needs. -/
def mostDigits : Nat := 17

/-- The shortest decimal of a positive number: its digits as a natural number, and the power of ten
of the last one. -/
def shortest (significand : Nat) (exponent : Int) : Nat × Int :=
  let around := neighbourhood significand exponent
  let found := (List.range mostDigits).findSome? fun (count : Nat) =>
    let power := around.magnitude - ((count : Int) + 1)
    (around.inUnits power).wholeNumber?.map fun digits => (digits, power)
  found.getD (0, 0)

/-- Decimal digits with the point where it belongs, without needless zeros. -/
def positional (digits : Nat) (power : Int) : List Char :=
  let shown := Nat.toDigits 10 digits
  let whole := shown.length + power
  let figures := (shown.reverse.dropWhile (· == '0')).reverse
  if whole ≤ 0 then '0' :: '.' :: List.replicate (-whole).toNat '0' ++ figures
  else if whole < figures.length then
    figures.take whole.toNat ++ '.' :: figures.drop whole.toNat
  else figures ++ List.replicate (whole.toNat - figures.length) '0'

/-- The number as text, without an exponent. -/
def toText : Binary64 → String
  | .nan => "NaN"
  | .infinity false => "inf"
  | .infinity true => "-inf"
  | .finite negative significand exponent =>
    let figures :=
      if significand = 0 then ['0']
      else positional (shortest significand exponent).1 (shortest significand exponent).2
    String.ofList (if negative then '-' :: figures else figures)

/-- The number as text that shows it is no integer: a finite one has a decimal point. -/
def toPointedText (number : Binary64) : String :=
  match number with
  | .finite .. => if '.' ∈ number.toText.toList then number.toText else number.toText ++ ".0"
  | .nan | .infinity _ => number.toText

end DashboardGenerator.Binary64
