import TypeConversion.Numeric.Decimal.Basic

/-!
# Decimals and binary floating-point numbers

The exchange between scaled decimals and the double format, in both directions.

* `Decimal.ofDouble?` expands a binary number into a decimal coefficient of at most 96 bits, trading
  factors two for factors five, and keeps the digits that the float is worth: seven for a single,
  fifteen for a double.
* `Decimal.toDouble` divides the coefficient by its power of ten in double arithmetic, the whole and
  the fraction apart, and corrects the sum to the decimal's own digits.
-/

namespace TypeConversion.Decimal

-- Powers are those of the core library, also where another library has its own.
attribute [local instance (2000)] instPowNat

/-- Multiply by ten to the count, if the result stays below 96 bits. -/
def raiseTens (m : Nat) : Nat → Option Nat
  | 0 => some m
  | count + 1 => if 10 * m < 2 ^ (96 : Nat) then raiseTens (10 * m) count else none

/-- Divide by ten to the count, rounding a half up at each digit; a quotient of zero stays zero. -/
def dropTens (m : Nat) : Nat → Nat
  | 0 => m
  | count + 1 =>
    let quotient := m / 10
    if quotient = 0 then 0
    else dropTens (if 5 ≤ m % 10 then quotient + 1 else quotient) count

/-- Divide by two to the count, written as `5 ^ count / 10 ^ count`: an even coefficient is halved,
an odd one is multiplied by five, or loses its low bit where that would exceed 96 bits. The second
component is the power of ten still to multiply with. -/
def divideByTwos (m : Nat) (tens : Int) : Nat → Nat × Int
  | 0 => (m, tens)
  | count + 1 =>
    if m % 2 = 0 then divideByTwos (m / 2) (tens + 1) count
    else if 5 * m < 2 ^ (96 : Nat) then divideByTwos (5 * m) tens count
    else divideByTwos (m / 2) (tens + 1) count

/-- Multiply by two to the count, written as `10 ^ count / 5 ^ count`: the coefficient is doubled
while it is below 95 bits, then divided by five while enough powers of ten are left. -/
def multiplyByTwos (m : Nat) (tens : Int) : Nat → Option (Nat × Int)
  | 0 => some (m, tens)
  | count + 1 =>
    if m < 2 ^ (95 : Nat) then multiplyByTwos (2 * m) (tens - 1) count
    else if (count + 1 : Int) < 2 * tens then none
    else multiplyByTwos (m / 5) tens count

/-- The decimal expansion of `significand · 2 ^ exponent`, as exact as 96 bits allow. -/
def expand? (negative : Bool) (significand : Nat) (exponent : Int) : Option Decimal := do
  let (m, tens) ←
    if exponent < 0 then some (divideByTwos significand exponent (-exponent).toNat)
    else multiplyByTwos significand exponent exponent.toNat
  let (m, scale) ←
    if 0 < tens then (raiseTens m tens.toNat).map fun m => (m, 0)
    else if tens < -28 then
      let m := dropTens m (-28 - tens).toNat
      some (m, if m = 0 then 0 else 28)
    else some (m, (-tens).toNat)
  ofParts? (if negative then -m else m) scale

/-- Whether the magnitude is below the least decimal step, the double nearest to `10 ^ (-28)`. -/
def isNegligible (significand : Nat) (exponent : Int) : Bool :=
  let step := BinaryFormat.double.nearest (mkRat 1 (10 ^ (28 : Nat)))
  (significand : Rat) * FloatDatum.twoPow exponent < step

/-- The decimal of a floating-point number with the given count of significant digits. -/
def ofDouble? (count : Nat) : FloatDatum → Option Decimal
  | .nan | .infinity _ => none
  | .finite negative significand exponent =>
    if isNegligible significand exponent then some zero
    else do
      let exact ← expand? negative significand exponent
      let rounded ← exact.roundSignificant? count
      return rounded.normalize

/-- Ten to the power of the scale by repeated squaring in double arithmetic. -/
def tenPower (result square : Rat) (scale : Nat) : Nat → Rat
  | 0 => result
  | fuel + 1 =>
    let result := if scale % 2 = 1 then BinaryFormat.double.nearest (result * square) else result
    if scale / 2 = 0 then result
    else tenPower result (BinaryFormat.double.nearest (square * square)) (scale / 2) fuel

/-- The double of a decimal magnitude `m / 10 ^ scale`, as a rational. -/
def magnitudeToDouble (m scale : Nat) : Rat :=
  let round := BinaryFormat.double.nearest
  if scale = 0 then round m else
  let precision := 10 ^ scale
  let whole := round (m / precision : Nat)
  let fraction := round (round (m % precision : Nat) / round (precision : Nat))
  if fraction = 0 then whole else
  let sum := round (whole + fraction)
  let ten := tenPower 1 10 scale (scale + 1)
  let product := round (sum * ten)
  round ((roundHalfUp product.num.natAbs product.den : Nat) / ten)

/-- The double of a decimal, as a rational. -/
def toDouble (d : Decimal) : Rat :=
  let magnitude := magnitudeToDouble d.coefficient.natAbs d.scale
  if d.coefficient < 0 then -magnitude else magnitude

end TypeConversion.Decimal
