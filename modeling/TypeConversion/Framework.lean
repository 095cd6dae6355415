/-!
# Framework types

The types that every universe knows by identity: the universal object, the bases of value types and
of enumerations, the generic optional, the arrays' base and interfaces, and the family of generic
list interfaces that arrays of one dimension convert to.
-/

namespace TypeConversion

/-- The types with a role in the rules of conversion. -/
inductive FrameworkType
  | object
  | valueType
  | enum
  | string
  | boolean
  | array
  | delegate
  | multicastDelegate
  | nullable
  | comparable
  | convertible
  | formattable
  | cloneable
  | enumerable
  | collection
  | list
  | enumerableOf
  | collectionOf
  | listOf
  | readOnlyCollectionOf
  | readOnlyListOf
  deriving DecidableEq, Repr, Inhabited

namespace FrameworkType

/-- Every framework type, in the order in which a universe registers them. -/
def all : List FrameworkType :=
  [object, valueType, enum, string, boolean, array, delegate, multicastDelegate, nullable,
    comparable, convertible, formattable, cloneable, enumerable, collection, list, enumerableOf,
    collectionOf, listOf, readOnlyCollectionOf, readOnlyListOf]

/-- The position of a framework type in `all`. -/
def index : FrameworkType → Nat
  | object => 0
  | valueType => 1
  | enum => 2
  | string => 3
  | boolean => 4
  | array => 5
  | delegate => 6
  | multicastDelegate => 7
  | nullable => 8
  | comparable => 9
  | convertible => 10
  | formattable => 11
  | cloneable => 12
  | enumerable => 13
  | collection => 14
  | list => 15
  | enumerableOf => 16
  | collectionOf => 17
  | listOf => 18
  | readOnlyCollectionOf => 19
  | readOnlyListOf => 20

theorem all_getElem_index (t : FrameworkType) : all[t.index]? = some t := by
  cases t <;> rfl

/-- The namespace. -/
def namespaceName : FrameworkType → String
  | enumerable | collection | list => "System.Collections"
  | enumerableOf | collectionOf | listOf | readOnlyCollectionOf | readOnlyListOf =>
    "System.Collections.Generic"
  | _ => "System"

/-- The name inside the namespace; a generic definition's name ends in its parameter count. -/
def name : FrameworkType → String
  | object => "Object"
  | valueType => "ValueType"
  | enum => "Enum"
  | string => "String"
  | boolean => "Boolean"
  | array => "Array"
  | delegate => "Delegate"
  | multicastDelegate => "MulticastDelegate"
  | nullable => "Nullable\x601"
  | comparable => "IComparable"
  | convertible => "IConvertible"
  | formattable => "IFormattable"
  | cloneable => "ICloneable"
  | enumerable => "IEnumerable"
  | collection => "ICollection"
  | list => "IList"
  | enumerableOf => "IEnumerable\x601"
  | collectionOf => "ICollection\x601"
  | listOf => "IList\x601"
  | readOnlyCollectionOf => "IReadOnlyCollection\x601"
  | readOnlyListOf => "IReadOnlyList\x601"

/-- The name with its namespace. -/
def fullName (t : FrameworkType) : String := t.namespaceName ++ "." ++ t.name

/-- Whether an array of one dimension converts to instances of the type. -/
def isListFamily : FrameworkType → Bool
  | enumerableOf | collectionOf | listOf | readOnlyCollectionOf | readOnlyListOf => true
  | _ => false

end FrameworkType

end TypeConversion
