import TypeConversion.Numeric.Binary

/-!
# Shortest decimal digits

The text of a binary floating-point number: the fewest decimal digits that read back as the same
number, written without an exponent.

* `ShortestDecimal.candidate?` looks on one decimal grid for a point that reads back: of the two
  neighbours of the number, the nearer one that lies among the reals that round to it.
* `ShortestDecimal.digits` tries coarse grids first, so no shorter decimal reads back.
* `ShortestDecimal.text` writes the digits positionally, with a point only before a fraction.
-/

namespace TypeConversion.ShortestDecimal

-- Powers are those of the core library, also where another library has its own.
attribute [local instance (2000)] instPowNat

/-- The reals that round to a number, as naturals over a common denominator: the number and the
distances to both ends. -/
structure Interval where
  value : Nat
  below : Nat
  above : Nat
  denominator : Nat
  closed : Bool

/-- The interval of the reals that round to `significand · 2 ^ exponent`. The gap below a power of
two is half the gap above it, and a tie goes to the even significand. -/
def Interval.around (f : BinaryFormat) (significand : Nat) (exponent : Int) : Interval :=
  let narrow := significand == 2 ^ f.fractionBits && f.minExponent < exponent
  let scale := if 0 ≤ exponent then 2 ^ exponent.toNat else 1
  { value := 4 * significand * scale
    below := (if narrow then 1 else 2) * scale
    above := 2 * scale
    denominator := if 0 ≤ exponent then 4 else 4 * 2 ^ (-exponent).toNat
    closed := significand % 2 == 0 }

/-- Whether the decimal `digits · 10 ^ power` lies in the interval. -/
def Interval.contains (i : Interval) (digits : Nat) (power : Int) : Bool :=
  let point := digits * (if 0 ≤ power then 10 ^ power.toNat else 1) * i.denominator
  let scale := if 0 ≤ power then 1 else 10 ^ (-power).toNat
  let low := (i.value - i.below) * scale
  let high := (i.value + i.above) * scale
  if i.closed then low ≤ point && point ≤ high else low < point && point < high

/-- The greatest `p` with `10 ^ p ≤ n / d`, for positive `n` and `d`, searched upwards from an
estimate that is not above it. -/
def floorLog10 (n d : Nat) : Int :=
  let reached (p : Int) : Bool :=
    if 0 ≤ p then d * 10 ^ p.toNat ≤ n else d ≤ n * 10 ^ (-p).toNat
  let start := ((n.log2 : Int) - d.log2 - 1) * 1233 / 4096 - 1
  (List.range 8).foldl (fun p _ => if reached (p + 1) then p + 1 else p) start

/-- The neighbour of the number on the grid of step `10 ^ power` that reads back, the nearer one
if both do, the upper one if both are equally near. -/
def candidate? (i : Interval) (power : Int) : Option Nat :=
  let scaledValue := if 0 ≤ power then i.value else i.value * 10 ^ (-power).toNat
  let step := if 0 ≤ power then i.denominator * 10 ^ power.toNat else i.denominator
  let lower := scaledValue / step
  let upper := lower + 1
  match i.contains lower power, i.contains upper power with
  | true, true => some (if 2 * (scaledValue % step) < step then lower else upper)
  | true, false => some lower
  | false, true => some upper
  | false, false => none

/-- The digits of the shortest decimal and its power of ten; seventeen digits always read back. -/
def digits (f : BinaryFormat) (significand : Nat) (exponent : Int) : Nat × Int :=
  let i := Interval.around f significand exponent
  let leading := floorLog10 i.value i.denominator
  let found := (List.range 17).findSome? fun (count : Nat) =>
    (candidate? i (leading - count)).map fun point => (point, leading - count)
  found.getD (0, 0)

/-- Drop the zeros that end a decimal fraction. -/
def trimFraction (fraction : List Char) : List Char :=
  (fraction.reverse.dropWhile (· == '0')).reverse

/-- The decimal `digits · 10 ^ power` written without an exponent. -/
def positional (digits : Nat) (power : Int) : String :=
  if 0 ≤ power then toString (digits * 10 ^ power.toNat) else
  let places := (-power).toNat
  let whole := digits / 10 ^ places
  let fraction := trimFraction ((Nat.toDigits 10 (digits % 10 ^ places)).leftpad places '0')
  if fraction.isEmpty then toString whole else toString whole ++ "." ++ String.ofList fraction

/-- The text of the number that the bits of a format stand for. -/
def text (f : BinaryFormat) (bits : Nat) : String :=
  match f.decode bits with
  | .nan => "NaN"
  | .infinity negative => if negative then "-inf" else "inf"
  | .finite negative significand exponent =>
    let magnitude :=
      if significand = 0 then "0" else
      let (point, power) := digits f significand exponent
      positional point power
    if negative then "-" ++ magnitude else magnitude

end TypeConversion.ShortestDecimal
