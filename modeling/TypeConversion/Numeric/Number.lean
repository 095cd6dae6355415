import TypeConversion.Numeric.Cast
import TypeConversion.Text.Hex
import TypeConversion.Numeric.Shortest
import TypeConversion.Numeric.Decimal.Binary

/-!
# Numbers and their casts

A number of one of the twelve kinds, and the cast of a number to any kind.

* Casts between integers keep the value where it fits. Where it does not, the checked cast fails
  and the unchecked one keeps the low bits.
* A float becomes the integer next to it towards zero. The checked cast compares that integer with
  the ends of the range in double arithmetic; the unchecked one clamps it to 128 bits first, a
  number that is none counting as zero.
* A decimal becomes the integer next to it towards zero, and has to fit in both modes.
* Casts into a float round to the nearest number. A float becomes the decimal of the digits that
  the float is worth, and fails outside the range of decimals.
-/

namespace TypeConversion

-- Powers are those of the core library, also where another library has its own.
attribute [local instance (2000)] instPowNat

/-- What a cast does with an integer that does not fit its target. -/
inductive OverflowMode
  | checked
  | unchecked
  deriving DecidableEq, Repr, Inhabited

/-- A number of one of the numeric kinds; floats are kept as their bits. -/
inductive Number
  | integer (value : MachineInteger)
  | single (bits : UInt32)
  | double (bits : UInt64)
  | decimal (value : Decimal)
  deriving DecidableEq

namespace Number

/-- The kind of a number. -/
def kind : Number → NumericKind
  | integer n => .integer n.kind
  | single _ => .single
  | double _ => .double
  | decimal _ => .decimal

/-- What the bits of a float stand for. -/
def datum? : Number → Option FloatDatum
  | single bits => some (BinaryFormat.single.decode bits.toNat)
  | double bits => some (BinaryFormat.double.decode bits.toNat)
  | integer _ | decimal _ => none

/-- The single with the given bits. -/
def ofSingleBits (bits : Nat) : Number := single (UInt32.ofNat bits)

/-- The double with the given bits. -/
def ofDoubleBits (bits : Nat) : Number := double (UInt64.ofNat bits)

/-- The single nearest to a number. -/
def toSingle : Number → Number
  | integer n => ofSingleBits (BinaryFormat.single.ofInt n.value)
  | single bits => single bits
  | double bits =>
    ofSingleBits (BinaryFormat.single.ofDatum (BinaryFormat.double.decode bits.toNat))
  | decimal d => ofSingleBits (BinaryFormat.single.ofRat d.toDouble)

/-- The double nearest to a number. -/
def toDouble : Number → Number
  | integer n => ofDoubleBits (BinaryFormat.double.ofInt n.value)
  | single bits =>
    ofDoubleBits (BinaryFormat.double.ofDatum (BinaryFormat.single.decode bits.toNat))
  | double bits => double bits
  | decimal d => ofDoubleBits (BinaryFormat.double.ofRat d.toDouble)

/-- The decimal of a number, if there is one. A single is worth seven digits, a double fifteen. -/
def toDecimal? : Number → Option Number
  | integer n => (Decimal.ofInt? n.value).map decimal
  | single bits => (Decimal.ofDouble? 7 (BinaryFormat.single.decode bits.toNat)).map decimal
  | double bits => (Decimal.ofDouble? 15 (BinaryFormat.double.decode bits.toNat)).map decimal
  | decimal d => some (decimal d)

/-- The least integer of 128 bits. -/
def wideMin : Int := -2 ^ (127 : Nat)

/-- The greatest integer of 128 bits. -/
def wideMax : Int := 2 ^ (127 : Nat) - 1

/-- The integer next to a float towards zero, clamped to 128 bits. -/
def saturate : FloatDatum → Int
  | .nan => 0
  | .infinity negative => if negative then wideMin else wideMax
  | .finite negative significand exponent =>
    let whole : Int := FloatDatum.wholePart significand exponent
    Max.max wideMin (Min.min wideMax (if negative then -whole else whole))

/-- Whether the integer next to a float towards zero lies in the range of `k`, tested in double
arithmetic: not below the double of the least number, and below the double of the greatest number
plus one. -/
def inRange (k : IntegerKind) : FloatDatum → Bool
  | .nan | .infinity _ => false
  | .finite negative significand exponent =>
    let round := BinaryFormat.double.nearest
    let whole : Int := FloatDatum.wholePart significand exponent
    let truncated : Rat := if negative then ((-whole : Int) : Rat) else (whole : Rat)
    round (k.min : Rat) ≤ truncated && truncated < round (round (k.max : Rat) + 1)

/-- The integer of kind `k` for a float. -/
def integerOfFloat? (k : IntegerKind) (mode : OverflowMode) (x : FloatDatum) : Option Number :=
  if mode = .checked && !inRange k x then none else some (integer (k.wrap (saturate x)))

/-- The integer of kind `k` for an integer. -/
def integerOfInteger? (k : IntegerKind) (mode : OverflowMode) (n : Int) : Option Number :=
  match mode with
  | .checked => (k.ofInt? n).map integer
  | .unchecked => some (integer (k.wrap n))

/-- The integer of kind `k` for a number, if the mode allows it. -/
def toInteger? (k : IntegerKind) (mode : OverflowMode) : Number → Option Number
  | integer n => integerOfInteger? k mode n.value
  | single bits => integerOfFloat? k mode (BinaryFormat.single.decode bits.toNat)
  | double bits => integerOfFloat? k mode (BinaryFormat.double.decode bits.toNat)
  | decimal d => (k.ofInt? d.truncate).map integer

/-- The cast of a number to a kind; no value stands for an overflow. A cast to the number's own
kind gives the number back. -/
def cast? (x : Number) (target : NumericKind) (mode : OverflowMode) : Option Number :=
  if x.kind = target then some x else
  match target with
  | .integer k => x.toInteger? k mode
  | .single => some x.toSingle
  | .double => some x.toDouble
  | .decimal => x.toDecimal?

/-- Whether two floating-point data are equal numbers: zeros of both signs are, and what is no
number equals nothing. Both are read from one format. -/
def sameDatum : FloatDatum → FloatDatum → Bool
  | .nan, _ | _, .nan => false
  | .finite _ 0 _, .finite _ 0 _ => true
  | a, b => a == b

/-- Whether two numbers of one kind are equal; numbers of different kinds never are. -/
def sameNumber : Number → Number → Bool
  | integer a, integer b => a == b
  | single a, single b =>
    sameDatum (BinaryFormat.single.decode a.toNat) (BinaryFormat.single.decode b.toNat)
  | double a, double b =>
    sameDatum (BinaryFormat.double.decode a.toNat) (BinaryFormat.double.decode b.toNat)
  | decimal a, decimal b => a.sameNumber b
  | _, _ => false

/-- The text of a code unit: the character it stands for, or its hexadecimal digits if it is half
of a surrogate pair. -/
def codeUnitText (unit : Nat) : String :=
  if unit < 0xD800 || 0xDFFF < unit then "'" ++ String.singleton (Char.ofNat unit) ++ "'"
  else "'\\u" ++ Hex.upper 4 unit ++ "'"

/-- The ending that tells the literals of a kind apart. -/
def literalSuffix : NumericKind → String
  | .integer .int64 => "L"
  | .integer .uint32 => "U"
  | .integer .uint64 => "UL"
  | .single => "f"
  | .decimal => "m"
  | .integer _ | .double => ""

/-- The text of a number, with the suffix of its kind. -/
def text (x : Number) : String :=
  match x with
  | integer n =>
    if n.kind = .char then codeUnitText n.value.toNat
    else toString n.value ++ literalSuffix x.kind
  | single bits => ShortestDecimal.text .single bits.toNat ++ literalSuffix x.kind
  | double bits => ShortestDecimal.text .double bits.toNat ++ literalSuffix x.kind
  | decimal d => d.text ++ literalSuffix x.kind

end Number

end TypeConversion
