import TypeConversion.Numeric.Kind

/-!
# Kinds of type

What a type is: a number, an enumeration, an optional, an array, a class and so on, with the flags
and the generic parameters that a declaration adds. Value kinds and reference kinds exclude one
another, and a generic type parameter is of neither.
-/

namespace TypeConversion

/-- The kinds of type. -/
inductive TypeKind
  | numeric (kind : NumericKind)
  | boolean
  | enum (underlying : NumericKind)
  | optional
  | array (rank : Nat)
  | struct
  | classType
  | interface
  | delegate
  | object
  | string
  | other
  deriving DecidableEq, Repr, Inhabited

namespace TypeKind

/-- Whether values of the kind are stored in place. -/
def isValue : TypeKind → Bool
  | numeric _ | boolean | enum _ | optional | struct => true
  | array _ | classType | interface | delegate | object | string | other => false

/-- Whether values of the kind are references, which can be null. -/
def isReference : TypeKind → Bool
  | array _ | classType | interface | delegate | object | string => true
  | numeric _ | boolean | enum _ | optional | struct | other => false

/-- The numeric kind of a number or of an enumeration's values. -/
def numericKind? : TypeKind → Option NumericKind
  | numeric kind | enum kind => some kind
  | _ => none

/-- Whether the kind is the UTF-16 code unit. -/
def isCharacter (k : TypeKind) : Bool := k == numeric (.integer .char)

/-- Whether the kind is an enumeration. -/
def isEnum : TypeKind → Bool
  | enum _ => true
  | _ => false

/-- Whether the kind is an optional. -/
def isOptional (k : TypeKind) : Bool := k == optional

/-- Whether the kind is an interface. -/
def isInterface (k : TypeKind) : Bool := k == interface

/-- Whether generic arguments of the kind convert along the variance of their parameter. -/
def admitsVariance : TypeKind → Bool
  | interface | delegate => true
  | _ => false

/-- The number of dimensions of an array. -/
def rank? : TypeKind → Option Nat
  | array rank => some rank
  | _ => none

/-- No kind is both a value kind and a reference kind. -/
theorem isReference_eq_false_of_isValue {k : TypeKind} (h : k.isValue = true) :
    k.isReference = false := by
  cases k <;> simp_all [isValue, isReference]

end TypeKind

/-- The flags of a declaration. -/
structure TypeFlags where
  isAbstract : Bool := false
  isSealed : Bool := false
  isGenericDefinition : Bool := false
  deriving DecidableEq, Repr, Inhabited

/-- How the conversions between two generic arguments carry over to their instances. -/
inductive Variance
  | invariant
  | covariant
  | contravariant
  deriving DecidableEq, Repr, Inhabited

/-- The variance that the two markers of a parameter give; a parameter marked with both is
covariant. -/
def Variance.ofMarkers (isCovariant isContravariant : Bool) : Variance :=
  if isCovariant then .covariant else if isContravariant then .contravariant else .invariant

/-- The name of a variance. -/
def Variance.name : Variance → String
  | invariant => "Invariant"
  | covariant => "Covariant"
  | contravariant => "Contravariant"

/-- A parameter of a generic definition. -/
structure GenericParameter where
  name : String
  variance : Variance
  deriving DecidableEq, Repr, Inhabited

end TypeConversion
