import TypeConversion.Numeric.Kind

/-!
# The table of numeric casts

For every pair of numeric kinds the class of the conversion between them, the operation that
performs it, whether it can lose the value's magnitude, and its instruction text.

* `NumericRelation.between` is the class: identity, implicit (never fails) or explicit;
* `CastOperation.between` is the operation;
* `NumericCast.canOverflow` says whether the checked cast can fail for some number of the source.
-/

namespace TypeConversion

/-- How a conversion between two numeric kinds may be asked for. -/
inductive NumericRelation
  | identity
  | implicit
  | explicit
  deriving DecidableEq, Repr

namespace NumericRelation

/-- Whether every number of the source kind may become one of the target kind without a cast
being written. The two floating kinds take every integer, though they round large ones. -/
def isImplicit : NumericKind → NumericKind → Bool
  | .integer .sbyte, .integer .int16 | .integer .sbyte, .integer .int32
  | .integer .sbyte, .integer .int64 => true
  | .integer .int16, .integer .int32 | .integer .int16, .integer .int64 => true
  | .integer .int32, .integer .int64 => true
  | .integer .byte, .integer .int16 | .integer .byte, .integer .uint16
  | .integer .byte, .integer .int32 | .integer .byte, .integer .uint32
  | .integer .byte, .integer .int64 | .integer .byte, .integer .uint64
  | .integer .byte, .integer .char => true
  | .integer .uint16, .integer .int32 | .integer .uint16, .integer .uint32
  | .integer .uint16, .integer .int64 | .integer .uint16, .integer .uint64
  | .integer .uint16, .integer .char => true
  | .integer .uint32, .integer .int64 | .integer .uint32, .integer .uint64 => true
  | .integer .char, .integer .uint16 | .integer .char, .integer .int32
  | .integer .char, .integer .uint32 | .integer .char, .integer .int64
  | .integer .char, .integer .uint64 => true
  | .integer _, .single | .integer _, .double | .integer _, .decimal => true
  | .single, .double => true
  | _, _ => false

/-- The class of the conversion between two kinds. -/
def between (source target : NumericKind) : NumericRelation :=
  if source = target then .identity
  else if isImplicit source target then .implicit
  else .explicit

/-- The name of a class. -/
def name : NumericRelation → String
  | identity => "Identity"
  | implicit => "Implicit"
  | explicit => "Explicit"

end NumericRelation

/-- What a cast does to the representation. -/
inductive CastOperation
  | identity
  | signExtend
  | zeroExtend
  | reinterpret
  | truncate
  | integerToFloat (unsignedSource : Bool)
  | floatToInteger
  | floatWiden
  | floatNarrow
  | integerToDecimal
  | floatToDecimal
  | decimalToInteger
  | decimalToFloat
  deriving DecidableEq, Repr

namespace CastOperation

/-- The name of an operation. -/
def name : CastOperation → String
  | identity => "Identity"
  | signExtend => "SignExtend"
  | zeroExtend => "ZeroExtend"
  | reinterpret => "Reinterpret"
  | truncate => "Truncate"
  | integerToFloat unsignedSource =>
    if unsignedSource then "IntToFloatUnsigned" else "IntToFloatSigned"
  | floatToInteger => "FloatToInt"
  | floatWiden => "FloatWiden"
  | floatNarrow => "FloatNarrow"
  | integerToDecimal => "IntToDecimal"
  | floatToDecimal => "FloatToDecimal"
  | decimalToInteger => "DecimalToInt"
  | decimalToFloat => "DecimalToFloat"

/-- The operation between two distinct integral kinds, decided by their widths. -/
def betweenIntegers (source target : IntegerKind) : CastOperation :=
  if source.width < target.width then
    if source.isSigned then .signExtend else .zeroExtend
  else if source.width = target.width then .reinterpret
  else .truncate

/-- The operation between two kinds. -/
def between (source target : NumericKind) : CastOperation :=
  if source = target then .identity else
  match source, target with
  | .decimal, .integer _ => .decimalToInteger
  | .decimal, _ => .decimalToFloat
  | .integer _, .decimal => .integerToDecimal
  | _, .decimal => .floatToDecimal
  | .single, .double => .floatWiden
  | .double, .single => .floatNarrow
  | .integer s, .integer t => betweenIntegers s t
  | .integer s, _ => .integerToFloat (!s.isSigned)
  | _, .integer _ => .floatToInteger
  | _, _ => .identity

end CastOperation

/-- A cast from one numeric kind to another. -/
structure NumericCast where
  source : NumericKind
  target : NumericKind
  deriving DecidableEq, Repr

namespace NumericCast

/-- The operation of a cast. -/
def operation (c : NumericCast) : CastOperation := .between c.source c.target

/-- Whether the checked cast can fail: an integer may lie outside the target's range, a float or a
decimal too, and a float may have no decimal value. -/
def canOverflow (c : NumericCast) : Bool :=
  match c.operation with
  | .identity | .zeroExtend | .integerToFloat _ | .floatWiden | .floatNarrow | .integerToDecimal
  | .decimalToFloat => false
  | .signExtend | .reinterpret | .truncate =>
    match c.source.range?, c.target.range? with
    | some (sourceMin, sourceMax), some (targetMin, targetMax) =>
      sourceMin < targetMin || targetMax < sourceMax
    | _, _ => true
  | .floatToInteger | .floatToDecimal | .decimalToInteger => true

/-- The instruction text of a cast, in its checked or its unchecked form. -/
def mnemonic (c : NumericCast) (checked : Bool) : String :=
  let target := c.target.instructionSuffix
  match c.operation with
  | .identity => "nop"
  | .signExtend | .zeroExtend | .reinterpret | .truncate =>
    if checked && c.canOverflow then
      "conv.ovf." ++ target ++ (if c.source.isUnsignedIntegral then ".un" else "")
    else "conv." ++ target
  | .integerToFloat true => "conv.r.un; conv." ++ target
  | .integerToFloat false | .floatWiden | .floatNarrow => "conv." ++ target
  | .floatToInteger => (if checked then "conv.ovf." else "conv.") ++ target
  | .integerToDecimal => "call System.Decimal::op_Implicit"
  | .floatToDecimal | .decimalToInteger | .decimalToFloat => "call System.Decimal::op_Explicit"

/-- The text of a cast: its two kinds and its checked instruction. -/
def text (c : NumericCast) : String :=
  c.source.name ++ " -> " ++ c.target.name ++ " (" ++ c.mnemonic true ++ ")"

end NumericCast

end TypeConversion
