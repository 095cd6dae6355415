import TypeConversion.Token
import TypeConversion.Framework
import TypeConversion.Types.Kind

/-!
# Type descriptors

A descriptor holds what is known of a type: its token, its name, its kind and flags, and the tokens
of the types it mentions. Types are compared by token.

* `FrameworkType.descriptor` and `NumericKind.descriptor` are the descriptors of the types that
  every universe holds from the start, in the first rows of the table of declared types.
-/

namespace TypeConversion

/-- What is known of a type. -/
structure TypeDescriptor where
  token : Token
  namespaceName : String
  name : String
  kind : TypeKind
  flags : TypeFlags := {}
  base : Option Token := none
  interfaces : List Token := []
  element : Option Token := none
  genericDefinition : Option Token := none
  genericArguments : List Token := []
  genericParameters : List GenericParameter := []
  deriving DecidableEq, Inhabited

namespace TypeDescriptor

/-- Whether two descriptors denote one type. -/
def sameType (a b : TypeDescriptor) : Bool := a.token == b.token

/-- The name with its namespace, if there is one. -/
def fullName (t : TypeDescriptor) : String :=
  if t.namespaceName.isEmpty then t.name else t.namespaceName ++ "." ++ t.name

/-- Whether values of the type are stored in place. -/
def isValueType (t : TypeDescriptor) : Bool := t.kind.isValue

/-- Whether values of the type are references. -/
def isReferenceType (t : TypeDescriptor) : Bool := t.kind.isReference

/-- Whether the type is an interface. -/
def isInterface (t : TypeDescriptor) : Bool := t.kind.isInterface

/-- Whether the type is an optional. -/
def isOptional (t : TypeDescriptor) : Bool := t.kind.isOptional

/-- Whether the type is an enumeration. -/
def isEnum (t : TypeDescriptor) : Bool := t.kind.isEnum

/-- Whether no type can extend the type: value types, strings and arrays never can be extended. -/
def isSealed (t : TypeDescriptor) : Bool :=
  t.flags.isSealed || t.kind.isValue || t.kind == .string || t.kind.rank?.isSome

/-- Whether the type is a generic definition with its arguments given. -/
def isGenericInstance (t : TypeDescriptor) : Bool := t.genericDefinition.isSome

/-- Whether the type is a generic definition without arguments. -/
def isGenericDefinition (t : TypeDescriptor) : Bool := t.flags.isGenericDefinition

/-- The numeric kind of a number or of an enumeration's values. -/
def numericKind? (t : TypeDescriptor) : Option NumericKind := t.kind.numericKind?

/-- The number of dimensions of an array. -/
def rank? (t : TypeDescriptor) : Option Nat := t.kind.rank?

end TypeDescriptor

namespace FrameworkType

/-- The token of a framework type: its row follows from its position. -/
def token (t : FrameworkType) : Token := .ofParts Token.declaredTable (t.index + 1)

/-- The kind of a framework type. -/
def kind : FrameworkType → TypeKind
  | object => .object
  | string => .string
  | boolean => .boolean
  | nullable => .struct
  | valueType | enum | array | delegate | multicastDelegate => .classType
  | comparable | convertible | formattable | cloneable | enumerable | collection | list
  | enumerableOf | collectionOf | listOf | readOnlyCollectionOf | readOnlyListOf => .interface

/-- Whether a framework type is a generic definition of one parameter. -/
def isGeneric : FrameworkType → Bool
  | nullable => true
  | t => t.isListFamily

/-- The flags of a framework type. -/
def flags (t : FrameworkType) : TypeFlags :=
  { isAbstract := t.kind == .interface || t.kind == .classType
    isSealed := t.kind == .string || t.kind == .boolean || t.kind == .struct
    isGenericDefinition := t.isGeneric }

/-- The base class of a framework type. -/
def base? : FrameworkType → Option FrameworkType
  | valueType | string | array | delegate => some object
  | enum | boolean | nullable => some valueType
  | multicastDelegate => some delegate
  | _ => none

/-- The interfaces that a framework type lists. -/
def interfaces : FrameworkType → List FrameworkType
  | enum => [comparable, convertible, formattable]
  | string => [comparable, convertible, cloneable, enumerable]
  | boolean => [comparable, convertible]
  | array => [cloneable, list, collection, enumerable]
  | delegate => [cloneable]
  | collection => [enumerable]
  | list => [collection, enumerable]
  | enumerableOf | collectionOf | listOf | readOnlyCollectionOf | readOnlyListOf => [enumerable]
  | _ => []

/-- The variance of the parameter of a generic framework type: the interfaces that only read are
covariant. -/
def parameterVariance : FrameworkType → Variance
  | enumerableOf | readOnlyCollectionOf | readOnlyListOf => .covariant
  | _ => .invariant

/-- The descriptor of a framework type. -/
def descriptor (t : FrameworkType) : TypeDescriptor :=
  { token := t.token
    namespaceName := t.namespaceName
    name := t.name
    kind := t.kind
    flags := t.flags
    base := t.base?.map token
    interfaces := t.interfaces.map token
    genericParameters := if t.isGeneric then [⟨"T", t.parameterVariance⟩] else [] }

/-- The framework type with the given token. -/
def ofToken? (token : Token) : Option FrameworkType :=
  all.find? fun t => t.token == token

end FrameworkType

namespace NumericKind

/-- The token of the type of a numeric kind: the rows after the framework types. -/
def token (k : NumericKind) : Token :=
  .ofParts Token.declaredTable (FrameworkType.all.length + k.index + 1)

/-- The interfaces that the type of a numeric kind lists; the code unit has no format. -/
def interfaces (k : NumericKind) : List FrameworkType :=
  if k = integer .char then [.comparable, .convertible]
  else [.comparable, .convertible, .formattable]

/-- The descriptor of the type of a numeric kind. -/
def descriptor (k : NumericKind) : TypeDescriptor :=
  { token := k.token
    namespaceName := "System"
    name := k.name
    kind := .numeric k
    flags := { isSealed := true }
    base := some FrameworkType.valueType.token
    interfaces := k.interfaces.map FrameworkType.token }

end NumericKind

namespace TypeDescriptor

/-- Whether a descriptor denotes the given framework type. -/
def isFramework (t : TypeDescriptor) (f : FrameworkType) : Bool := t.token == f.token

end TypeDescriptor

end TypeConversion
