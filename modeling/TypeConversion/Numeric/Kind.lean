/-!
# Numeric kinds

Twelve kinds of number: eight machine integers, the UTF-16 code unit, which converts like an
unsigned integer of 16 bits, the two IEEE binary formats and the scaled decimal.

* `IntegerKind.min` and `IntegerKind.max` are the ends of a kind's range, `IntegerKind.reduce` picks
  from the range the number congruent to a given one modulo a power of two.
* `MachineInteger` is an integer inside the range of its kind; `IntegerKind.ofInt?` builds one from
  a number in range and `IntegerKind.wrap` from any number.
-/

namespace TypeConversion

-- Powers are those of the core library, also where another library has its own.
attribute [local instance (2000)] instPowNat

/-- The integral kinds. -/
inductive IntegerKind
  | sbyte
  | int16
  | int32
  | int64
  | byte
  | uint16
  | uint32
  | uint64
  | char
  deriving DecidableEq, Repr, Inhabited

namespace IntegerKind

/-- The number of bits. -/
def width : IntegerKind → Nat
  | sbyte | byte => 8
  | int16 | uint16 | char => 16
  | int32 | uint32 => 32
  | int64 | uint64 => 64

/-- Whether the range has negative numbers. -/
def isSigned : IntegerKind → Bool
  | sbyte | int16 | int32 | int64 => true
  | byte | uint16 | uint32 | uint64 | char => false

/-- The least number of the range. -/
def min (k : IntegerKind) : Int :=
  if k.isSigned then -2 ^ (k.width - 1) else 0

/-- The greatest number of the range. -/
def max (k : IntegerKind) : Int :=
  if k.isSigned then 2 ^ (k.width - 1) - 1 else 2 ^ k.width - 1

/-- The number of the range that is congruent to `n` modulo two to the width. -/
def reduce (k : IntegerKind) (n : Int) : Int :=
  (n - k.min) % 2 ^ k.width + k.min

theorem max_eq_min_add (k : IntegerKind) : k.max = k.min + 2 ^ k.width - 1 := by
  cases k <;> rfl

theorem min_le_reduce (k : IntegerKind) (n : Int) : k.min ≤ k.reduce n := by
  have h : (0 : Int) ≤ (n - k.min) % 2 ^ k.width :=
    Int.emod_nonneg _ (Int.ne_of_gt (Int.pow_pos (by decide)))
  rw [reduce]
  omega

theorem reduce_le_max (k : IntegerKind) (n : Int) : k.reduce n ≤ k.max := by
  have h : (n - k.min) % 2 ^ k.width < 2 ^ k.width :=
    Int.emod_lt_of_pos _ (Int.pow_pos (by decide))
  rw [reduce, max_eq_min_add]
  omega

/-- A number of the range is its own reduction. -/
theorem reduce_of_mem {k : IntegerKind} {n : Int} (hmin : k.min ≤ n) (hmax : n ≤ k.max) :
    k.reduce n = n := by
  rw [max_eq_min_add] at hmax
  rw [reduce, Int.emod_eq_of_lt (by omega) (by omega)]
  omega

end IntegerKind

/-- An integer inside the range of its kind. -/
structure MachineInteger where
  kind : IntegerKind
  value : Int
  min_le : kind.min ≤ value
  le_max : value ≤ kind.max
  deriving DecidableEq

namespace IntegerKind

/-- The integer of value `n`, if `n` lies in the range. -/
def ofInt? (k : IntegerKind) (n : Int) : Option MachineInteger :=
  if h : k.min ≤ n ∧ n ≤ k.max then some ⟨k, n, h.1, h.2⟩ else none

/-- The integer whose low bits are those of `n`. -/
def wrap (k : IntegerKind) (n : Int) : MachineInteger :=
  ⟨k, k.reduce n, k.min_le_reduce n, k.reduce_le_max n⟩

end IntegerKind

/-- The kinds of number. -/
inductive NumericKind
  | integer (kind : IntegerKind)
  | single
  | double
  | decimal
  deriving DecidableEq, Repr, Inhabited

namespace NumericKind

/-- Every kind, in the order in which a universe registers them. -/
def all : List NumericKind :=
  [integer .sbyte, integer .int16, integer .int32, integer .int64, integer .byte, integer .uint16,
    integer .uint32, integer .uint64, integer .char, single, double, decimal]

/-- The position of a kind in `all`. -/
def index : NumericKind → Nat
  | integer .sbyte => 0
  | integer .int16 => 1
  | integer .int32 => 2
  | integer .int64 => 3
  | integer .byte => 4
  | integer .uint16 => 5
  | integer .uint32 => 6
  | integer .uint64 => 7
  | integer .char => 8
  | single => 9
  | double => 10
  | decimal => 11

theorem all_getElem_index (k : NumericKind) : all[k.index]? = some k := by
  rcases k with k | _ | _ | _
  · cases k <;> rfl
  all_goals rfl

/-- The number of bits. -/
def width : NumericKind → Nat
  | integer k => k.width
  | single => 32
  | double => 64
  | decimal => 128

/-- Whether the kind is a machine integer or the code unit. -/
def isIntegral : NumericKind → Bool
  | integer _ => true
  | single | double | decimal => false

/-- Whether the kind is an IEEE binary format. -/
def isFloating : NumericKind → Bool
  | single | double => true
  | integer _ | decimal => false

/-- Whether the kind has negative numbers. -/
def isSigned : NumericKind → Bool
  | integer k => k.isSigned
  | single | double | decimal => true

/-- Whether the kind is integral without negative numbers. -/
def isUnsignedIntegral (k : NumericKind) : Bool :=
  k.isIntegral && !k.isSigned

/-- The least and the greatest number of an integral kind. -/
def range? : NumericKind → Option (Int × Int)
  | integer k => some (k.min, k.max)
  | single | double | decimal => none

/-- The name of a kind inside the namespace `System`. -/
def name : NumericKind → String
  | integer .sbyte => "SByte"
  | integer .int16 => "Int16"
  | integer .int32 => "Int32"
  | integer .int64 => "Int64"
  | integer .byte => "Byte"
  | integer .uint16 => "UInt16"
  | integer .uint32 => "UInt32"
  | integer .uint64 => "UInt64"
  | integer .char => "Char"
  | single => "Single"
  | double => "Double"
  | decimal => "Decimal"

/-- The name of a kind with its namespace. -/
def fullName (k : NumericKind) : String := "System." ++ k.name

/-- The ending of the conversion instructions into a kind. -/
def instructionSuffix : NumericKind → String
  | integer .sbyte => "i1"
  | integer .int16 => "i2"
  | integer .int32 => "i4"
  | integer .int64 => "i8"
  | integer .byte => "u1"
  | integer .uint16 | integer .char => "u2"
  | integer .uint32 => "u4"
  | integer .uint64 => "u8"
  | single => "r4"
  | double => "r8"
  | decimal => "decimal"

end NumericKind

end TypeConversion
