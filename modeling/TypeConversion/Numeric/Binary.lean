/-!
# Binary floating-point formats

A number of an IEEE binary format is kept as its bits. This module reads bits as the exact number
they stand for and rounds exact numbers to the format.

* `BinaryFormat.decode` reads bits: not a number, an infinity, or `±significand · 2 ^ exponent`.
* `BinaryFormat.roundQuotient` rounds a quotient of naturals to the nearest number of the format,
  ties to the even significand, as a significand and an exponent; `BinaryFormat.encode` packs such
  a pair, with infinity for what is too large.
* `BinaryFormat.nearest` is that rounding as a function on rationals. The arithmetic of a format is
  the exact arithmetic of `Rat` followed by `nearest`.
-/

namespace TypeConversion

-- Powers are those of the core library, also where another library has its own.
attribute [local instance (2000)] instPowNat

/-- The natural number nearest to `n / d`, a half going to the even neighbour. -/
def roundHalfEven (n d : Nat) : Nat :=
  let quotient := n / d
  let rest := n % d
  if 2 * rest < d then quotient
  else if d < 2 * rest then quotient + 1
  else quotient + quotient % 2

/-- The integer nearest to `n / d`, a half going away from zero. -/
def roundHalfUp (n d : Nat) : Nat := (2 * n + d) / (2 * d)

/-- What the bits of a floating-point number stand for. -/
inductive FloatDatum
  | nan
  | infinity (negative : Bool)
  | finite (negative : Bool) (significand : Nat) (exponent : Int)
  deriving DecidableEq, Repr

namespace FloatDatum

/-- Two to a possibly negative power. -/
def twoPow (exponent : Int) : Rat :=
  if 0 ≤ exponent then ((2 ^ exponent.toNat : Nat) : Rat) else mkRat 1 (2 ^ (-exponent).toNat)

/-- The whole part of `significand · 2 ^ exponent`. -/
def wholePart (significand : Nat) (exponent : Int) : Nat :=
  if 0 ≤ exponent then significand * 2 ^ exponent.toNat else significand / 2 ^ (-exponent).toNat

end FloatDatum

/-- A binary format: the number of stored bits of the significand and of the exponent. -/
structure BinaryFormat where
  fractionBits : Nat
  exponentBits : Nat
  deriving DecidableEq, Repr

namespace BinaryFormat

/-- The format of 32 bits. -/
def single : BinaryFormat := ⟨23, 8⟩

/-- The format of 64 bits. -/
def double : BinaryFormat := ⟨52, 11⟩

/-- The exponent of the least positive number, which is also that of every subnormal one. -/
def minExponent (f : BinaryFormat) : Int :=
  2 - 2 ^ (f.exponentBits - 1) - f.fractionBits

/-- The bits of the positive infinity. -/
def infinityBits (f : BinaryFormat) : Nat :=
  (2 ^ f.exponentBits - 1) * 2 ^ f.fractionBits

/-- The bit of the sign. -/
def signBit (f : BinaryFormat) : Nat := 2 ^ (f.fractionBits + f.exponentBits)

/-- The bits of a number with the given sign and the given magnitude bits. -/
def withSign (f : BinaryFormat) (negative : Bool) (bits : Nat) : Nat :=
  if negative then f.signBit + bits else bits

/-- The bits that stand for no number. -/
def nanBits (f : BinaryFormat) : Nat := f.infinityBits + 2 ^ (f.fractionBits - 1)

/-- What the bits stand for. -/
def decode (f : BinaryFormat) (bits : Nat) : FloatDatum :=
  let negative := bits / f.signBit % 2 == 1
  let fraction := bits % 2 ^ f.fractionBits
  let exponent := bits / 2 ^ f.fractionBits % 2 ^ f.exponentBits
  if exponent = 2 ^ f.exponentBits - 1 then
    if fraction = 0 then .infinity negative else .nan
  else if exponent = 0 then .finite negative fraction f.minExponent
  else .finite negative (2 ^ f.fractionBits + fraction) (f.minExponent + exponent - 1)

/-- The greatest `e` with `2 ^ e ≤ n / d`, for positive `n` and `d`. -/
def floorLog2 (n d : Nat) : Int :=
  let estimate : Int := (n.log2 : Int) - d.log2
  let reached :=
    if 0 ≤ estimate then d * 2 ^ estimate.toNat ≤ n else d ≤ n * 2 ^ (-estimate).toNat
  if reached then estimate else estimate - 1

/-- The number of the format nearest to `n / d`, as a significand and an exponent. The grid has
`fractionBits + 1` significant bits, or fewer where it would be finer than the least number. -/
def roundQuotient (f : BinaryFormat) (n d : Nat) : Nat × Int :=
  if n = 0 then (0, f.minExponent) else
  let exponent := Max.max f.minExponent (floorLog2 n d - f.fractionBits)
  let significand :=
    if 0 ≤ exponent then roundHalfEven n (d * 2 ^ exponent.toNat)
    else roundHalfEven (n * 2 ^ (-exponent).toNat) d
  (significand, exponent)

/-- The magnitude bits of a significand and an exponent that `roundQuotient` gives. The leading
bit of the significand adds one to the stored exponent, and so does a carry out of it. -/
def encode (f : BinaryFormat) (significand : Nat) (exponent : Int) : Nat :=
  Min.min f.infinityBits ((exponent - f.minExponent).toNat * 2 ^ f.fractionBits + significand)

/-- The bits of the number nearest to `±n / d`. -/
def ofQuotient (f : BinaryFormat) (negative : Bool) (n d : Nat) : Nat :=
  let (significand, exponent) := f.roundQuotient n d
  f.withSign negative (f.encode significand exponent)

/-- The bits of the number nearest to an integer. -/
def ofInt (f : BinaryFormat) (n : Int) : Nat := f.ofQuotient (n < 0) n.natAbs 1

/-- The bits of the number nearest to a rational. -/
def ofRat (f : BinaryFormat) (q : Rat) : Nat := f.ofQuotient (q.num < 0) q.num.natAbs q.den

/-- The bits of the number nearest to what another format's bits stand for. -/
def ofDatum (f : BinaryFormat) : FloatDatum → Nat
  | .nan => f.nanBits
  | .infinity negative => f.withSign negative f.infinityBits
  | .finite negative significand exponent =>
    if 0 ≤ exponent then f.ofQuotient negative (significand * 2 ^ exponent.toNat) 1
    else f.ofQuotient negative significand (2 ^ (-exponent).toNat)

/-- The rational of the format nearest to `q`, with no bound on its size. -/
def nearest (f : BinaryFormat) (q : Rat) : Rat :=
  let (significand, exponent) := f.roundQuotient q.num.natAbs q.den
  let magnitude := (significand : Rat) * FloatDatum.twoPow exponent
  if q.num < 0 then -magnitude else magnitude

end BinaryFormat

end TypeConversion
