import TypeConversion.Token
import TypeConversion.Numeric.Kind

/-!
# Errors

The causes for which building a type, asking for a conversion or converting a value fails, and the
text of each.

* `Error.summary` says what is wrong, `Error.text` is the whole text of the error.
-/

namespace TypeConversion

/-- What is wrong with a type, a construction or an operator; types appear by their full names. -/
inductive TypeFault
  | tokenTaken (token : Token)
  | extendsInterface (type base : String)
  | extendsSealed (type base : String)
  | implementsNonInterface (type implemented : String)
  | optionalOf (inner : String)
  | rankZero
  | arrayOfOpen (element : String)
  | notGenericDefinition (type : String)
  | argumentCount (definition : String) (expected got : Nat)
  | openArgument (argument : String)
  | operatorToItself (declaring side : String)
  | operatorElsewhere (declaring : String)
  | operatorOn (declaring side : String)
  | operatorRepeated (declaring input output : String)
  | enumUnderlying (type : String) (underlying : NumericKind)
  | interfaceWithBase (type : String)
  | fixedBase (type : String)
  | other (message : String)
  deriving DecidableEq

/-- The text of a fault. -/
def TypeFault.text : TypeFault → String
  | tokenTaken token => "Token " ++ token.text ++ " is already registered"
  | extendsInterface type base => type ++ " cannot extend interface " ++ base
  | extendsSealed type base => type ++ " cannot extend sealed type " ++ base
  | implementsNonInterface type implemented =>
    type ++ " cannot implement non-interface " ++ implemented
  | optionalOf inner => "Nullable\x601 requires a non-nullable value type, got " ++ inner
  | rankZero => "Array rank must be at least 1"
  | arrayOfOpen element => "Cannot create an array of open generic type " ++ element
  | notGenericDefinition type => type ++ " is not a generic type definition"
  | argumentCount definition expected got =>
    definition ++ " expects " ++ toString expected ++ " generic arguments, got " ++ toString got
  | openArgument argument => "Generic argument " ++ argument ++ " is an open definition"
  | operatorToItself declaring side =>
    "Conversion operator on " ++ declaring ++ " converts " ++ side ++ " to itself"
  | operatorElsewhere declaring =>
    "Conversion operator on " ++ declaring ++ " must convert to or from the declaring type"
  | operatorOn declaring side =>
    "Conversion operator on " ++ declaring ++ " cannot convert to or from " ++ side
  | operatorRepeated declaring input output =>
    declaring ++ " already declares a conversion from " ++ input ++ " to " ++ output
  | enumUnderlying type underlying =>
    "Enum " ++ type ++ " needs an integral underlying type, got " ++ underlying.name
  | interfaceWithBase type => "Interface " ++ type ++ " cannot have a base class"
  | fixedBase type => type ++ " cannot choose its base class"
  | other message => message

/-- What is wrong with the calls that describe a declaration. -/
inductive DeclarationFault
  | kindAlreadySet (name : String)
  | baseAlreadySet
  | kindNeverSet
  | other (message file : String) (line : Nat)
  deriving DecidableEq

namespace DeclarationFault

/-- What is wrong. -/
def summary : DeclarationFault → String
  | kindAlreadySet name => "Type kind already set for " ++ name
  | baseAlreadySet => "Base type already set"
  | kindNeverSet => "Type kind was never set"
  | other message _ _ => message

/-- What is wrong, after the place where it was found if that is known. -/
def text : DeclarationFault → String
  | other message file line =>
    "Malformed - " ++ file ++ ":" ++ toString line ++ ": " ++ message
  | fault => "Malformed - " ++ fault.summary

end DeclarationFault

/-- The causes of failure. -/
inductive Error
  | malformed (fault : DeclarationFault)
  | typeNotFound (token : Token)
  | typeInsert (name : String)
  | typeFault (fault : TypeFault)
  | noConversion (source target : String)
  | ambiguous (source target : String) (candidates : List String)
  | emptyOptional (target : String)
  | overflow (source target : NumericKind)
  | invalidCast (source target : String)
  | nullReference (target : String)
  | valueMismatch (expected found : String)
  | conversion (message : String)
  deriving DecidableEq

namespace Error

/-- The whole text of an error. -/
def text : Error → String
  | malformed fault => fault.text
  | typeNotFound token => "Failed to find type in TypeUniverse - " ++ token.text
  | typeInsert name => "Failed to insert new type into TypeUniverse - " ++ name
  | typeFault fault => fault.text
  | noConversion source target =>
    "No conversion exists from '" ++ source ++ "' to '" ++ target ++ "'"
  | ambiguous source target candidates =>
    "Ambiguous user-defined conversion from '" ++ source ++ "' to '" ++ target ++
      "' - candidates: " ++ ", ".intercalate candidates
  | emptyOptional target =>
    "Nullable object must have a value - cannot convert empty optional to '" ++ target ++ "'"
  | overflow source target =>
    "Arithmetic operation resulted in an overflow - " ++ source.name ++ " to " ++ target.name
  | invalidCast source target =>
    "Unable to cast object of type '" ++ source ++ "' to type '" ++ target ++ "'"
  | nullReference target =>
    "Object reference not set to an instance of an object - unboxing to '" ++ target ++ "'"
  | valueMismatch expected found =>
    "Value mismatch - expected " ++ expected ++ ", found " ++ found
  | conversion message => "Conversion failed - " ++ message

/-- The name of a cause. -/
def causeName : Error → String
  | malformed _ => "Malformed"
  | typeNotFound _ => "TypeNotFound"
  | typeInsert _ => "TypeInsert"
  | typeFault _ => "TypeError"
  | noConversion _ _ => "NoConversion"
  | ambiguous _ _ _ => "AmbiguousUserConversion"
  | emptyOptional _ => "NullOptionalUnwrap"
  | overflow _ _ => "NumericOverflow"
  | invalidCast _ _ => "InvalidCast"
  | nullReference _ => "NullReference"
  | valueMismatch _ _ => "ValueMismatch"
  | conversion _ => "Conversion"

/-- What is wrong, without the place where a malformed declaration was found. -/
def summary : Error → String
  | malformed fault => fault.summary
  | error => error.text

end Error

end TypeConversion
