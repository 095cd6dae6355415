import TypeConversion.Numeric.Binary

/-!
# Scaled decimals

A decimal is an integer coefficient of at most 96 bits over a power of ten of at most 28. The scale
is part of the value's text (`1.10` is not written `1.1`) but not of its number.

* `Decimal.ofParts?` builds a decimal where both bounds hold;
* `Decimal.truncate` is the integer next to it towards zero;
* `Decimal.roundSignificant?` keeps a number of leading digits, a half going to the even neighbour;
* `Decimal.normalize` drops the zeros that end the fraction;
* `Decimal.text` writes every digit of the scale, and `Decimal.read?` reads such a text.
-/

namespace TypeConversion

-- Powers are those of the core library, also where another library has its own.
attribute [local instance (2000)] instPowNat

/-- The number `coefficient / 10 ^ scale`. -/
structure Decimal where
  coefficient : Int
  scale : Nat
  coefficient_lt : coefficient.natAbs < 2 ^ (96 : Nat)
  scale_le : scale ≤ 28
  deriving DecidableEq

namespace Decimal

/-- The decimal with the given coefficient and scale, if both are in bounds. -/
def ofParts? (coefficient : Int) (scale : Nat) : Option Decimal :=
  if h : coefficient.natAbs < 2 ^ (96 : Nat) ∧ scale ≤ 28 then some ⟨coefficient, scale, h.1, h.2⟩
  else none

/-- The decimal zero. -/
def zero : Decimal := ⟨0, 0, by decide, by decide⟩

instance : Inhabited Decimal := ⟨zero⟩

/-- The integer as a decimal without fraction digits, if it has at most 96 bits. -/
def ofInt? (n : Int) : Option Decimal := ofParts? n 0

/-- The exact number. -/
def toRat (d : Decimal) : Rat := mkRat d.coefficient (10 ^ d.scale)

/-- Whether two decimals are the same number, whatever their scales. -/
def sameNumber (a b : Decimal) : Bool :=
  a.coefficient * 10 ^ b.scale == b.coefficient * 10 ^ a.scale

/-- The integer next to the number towards zero. -/
def truncate (d : Decimal) : Int := d.coefficient.tdiv (10 ^ d.scale)

/-- The number of decimal digits of a natural number; zero has one. -/
def digitCount (n : Nat) : Nat := (Nat.toDigits 10 n).length

/-- Drop one zero after another from the end of the fraction. -/
def stripZeros (coefficient : Int) : Nat → Int × Nat
  | 0 => (coefficient, 0)
  | scale + 1 =>
    if 10 ∣ coefficient then stripZeros (coefficient / 10) scale else (coefficient, scale + 1)

theorem natAbs_stripZeros_le (c : Int) (s : Nat) : (stripZeros c s).1.natAbs ≤ c.natAbs := by
  induction s generalizing c with
  | zero => simp [stripZeros]
  | succ s ih =>
    rw [stripZeros]
    split
    · exact Nat.le_trans (ih _) (by omega)
    · exact Nat.le_refl _

theorem snd_stripZeros_le (c : Int) (s : Nat) : (stripZeros c s).2 ≤ s := by
  induction s generalizing c with
  | zero => simp [stripZeros]
  | succ s ih =>
    rw [stripZeros]
    split
    · exact Nat.le_succ_of_le (ih _)
    · exact Nat.le_refl _

/-- The same number without zeros at the end of its fraction. -/
def normalize (d : Decimal) : Decimal :=
  ⟨(stripZeros d.coefficient d.scale).1, (stripZeros d.coefficient d.scale).2,
    Nat.lt_of_le_of_lt (natAbs_stripZeros_le _ _) d.coefficient_lt,
    Nat.le_trans (snd_stripZeros_le _ _) d.scale_le⟩

/-- The number rounded to its leading `count` digits, if the result still has 96 bits. -/
def roundSignificant? (d : Decimal) (count : Nat) : Option Decimal :=
  let magnitude := d.coefficient.natAbs
  let excess := digitCount magnitude - count
  let rounded := d.coefficient.sign * roundHalfEven magnitude (10 ^ excess)
  if excess ≤ d.scale then ofParts? rounded (d.scale - excess)
  else ofParts? (rounded * 10 ^ (excess - d.scale)) 0

/-- The digits of a decimal, with as many after the point as its scale says. -/
def text (d : Decimal) : String :=
  let magnitude := d.coefficient.natAbs
  let whole := toString (magnitude / 10 ^ d.scale)
  let unsigned :=
    if d.scale = 0 then whole else
    whole ++ "." ++
      String.ofList ((Nat.toDigits 10 (magnitude % 10 ^ d.scale)).leftpad d.scale '0')
  if d.coefficient < 0 then "-" ++ unsigned else unsigned

/-- The decimal of a text of digits with an optional sign and point; the digits after the point give
the scale. -/
def read? (s : String) : Option Decimal :=
  let negative := s.toList.head? == some '-'
  let unsigned := if negative then s.toList.drop 1 else s.toList
  let digits := unsigned.filter (· != '.')
  let places := ((unsigned.dropWhile (· != '.')).drop 1).length
  if digits.all Char.isDigit then
    let magnitude : Int := digits.foldl (fun n c => 10 * n + (c.toNat - '0'.toNat)) (0 : Nat)
    ofParts? (if negative then -magnitude else magnitude) places
  else none

end Decimal

end TypeConversion
