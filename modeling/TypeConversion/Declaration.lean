import TypeConversion.Universe.Operators

/-!
# Declarations

A declaration describes a new type call by call: what it is, what it extends and implements, its
flags, its generic parameters and its conversion operators. `Declaration.build` checks the
description and adds the type and its operators to a universe.

* The first fault of the calls is the one that is reported.
* Only a class can choose its base. Value types, enumerations and delegates are sealed and have the
  base of their kind, an interface has none.
* The operators are declared after the type is registered, so the type stays if one is refused.
-/

namespace TypeConversion

/-- An operator that a declaration adds to its type. -/
structure PendingOperator where
  input : Token
  output : Token
  isImplicit : Bool
  procedure : Procedure

/-- The description of a new type. -/
structure Declaration where
  token : Token
  identity : Option (String × String × TypeKind) := none
  base : Option Token := none
  interfaces : List Token := []
  flags : TypeFlags := {}
  genericParameters : List GenericParameter := []
  operators : List PendingOperator := []
  fault : Option DeclarationFault := none

namespace Declaration

/-- Begin a declaration with a new token of the universe. -/
def start (u : Universe) : Declaration × Universe :=
  ({ token := u.allocate.1 }, u.allocate.2)

/-- Note a fault, unless there already is one. -/
def note (d : Declaration) (fault : DeclarationFault) : Declaration :=
  { d with fault := d.fault.or (some fault) }

/-- Say what the type is, which can be said once. -/
def identify (d : Declaration) (namespaceName name : String) (kind : TypeKind) : Declaration :=
  match d.identity with
  | some _ => d.note (.kindAlreadySet name)
  | none => { d with identity := some (namespaceName, name, kind) }

/-- The type is a class. -/
def asClass (d : Declaration) (namespaceName name : String) : Declaration :=
  d.identify namespaceName name .classType

/-- The type is a value type. -/
def asValueType (d : Declaration) (namespaceName name : String) : Declaration :=
  d.identify namespaceName name .struct

/-- The type is an interface. -/
def asInterface (d : Declaration) (namespaceName name : String) : Declaration :=
  d.identify namespaceName name .interface

/-- The type is a delegate. -/
def asDelegate (d : Declaration) (namespaceName name : String) : Declaration :=
  d.identify namespaceName name .delegate

/-- The type is an enumeration of numbers of the given kind. -/
def asEnumeration (d : Declaration) (namespaceName name : String) (underlying : NumericKind) :
    Declaration :=
  d.identify namespaceName name (.enum underlying)

/-- Choose the base, which can be done once. -/
def extending (d : Declaration) (base : Token) : Declaration :=
  let d := if d.base.isSome then d.note .baseAlreadySet else d
  { d with base := some base }

/-- List an interface, unless it is listed already. -/
def implementing (d : Declaration) (implemented : Token) : Declaration :=
  if d.interfaces.contains implemented then d
  else { d with interfaces := d.interfaces ++ [implemented] }

/-- Seal the type. -/
def asSealed (d : Declaration) : Declaration :=
  { d with flags := { d.flags with isSealed := true } }

/-- Make the type abstract. -/
def asAbstract (d : Declaration) : Declaration :=
  { d with flags := { d.flags with isAbstract := true } }

/-- Add a generic parameter, which makes the type a generic definition. -/
def withParameter (d : Declaration) (parameter : GenericParameter) : Declaration :=
  { d with
    flags := { d.flags with isGenericDefinition := true }
    genericParameters := d.genericParameters ++ [parameter] }

/-- Add a conversion operator. -/
def withOperator (d : Declaration) (pending : PendingOperator) : Declaration :=
  { d with operators := d.operators ++ [pending] }

/-- The base that a kind of type has by itself. -/
def defaultBase? : TypeKind → Option FrameworkType
  | .classType => some .object
  | .struct => some .valueType
  | .enum _ => some .enum
  | .delegate => some .multicastDelegate
  | _ => none

/-- Whether the kind of a declared type seals it. -/
def sealedByKind : TypeKind → Bool
  | .struct | .enum _ | .delegate => true
  | _ => false

/-- Whether the kind can count the values of an enumeration. -/
def isEnumUnderlying (k : NumericKind) : Bool := k.isIntegral && k != .integer .char

/-- The base of the declared type. -/
def chosenBase (qualified : String) (kind : TypeKind) (base : Option Token) :
    Except Error (Option Token) :=
  match kind, base with
  | _, none => .ok ((defaultBase? kind).map FrameworkType.token)
  | .classType, some base => .ok (some base)
  | .interface, some _ => .error (.typeFault (.interfaceWithBase qualified))
  | _, some _ => .error (.typeFault (.fixedBase qualified))

/-- An enumeration counts with an integral kind other than the code unit. -/
def checkUnderlying (qualified : String) : TypeKind → Except Error Unit
  | .enum underlying =>
    if isEnumUnderlying underlying then .ok ()
    else .error (.typeFault (.enumUnderlying qualified underlying))
  | _ => .ok ()

/-- The descriptor of the declared type, if its description has no fault. -/
def descriptor (d : Declaration) : Except Error TypeDescriptor := do
  if let some fault := d.fault then
    throw (.malformed fault)
  let some (namespaceName, name, kind) := d.identity | throw (.malformed .kindNeverSet)
  let qualified := namespaceName ++ "." ++ name
  checkUnderlying qualified kind
  let base ← chosenBase qualified kind d.base
  return {
    token := d.token
    namespaceName := namespaceName
    name := name
    kind := kind
    flags := { d.flags with isSealed := d.flags.isSealed || sealedByKind kind }
    base := base
    interfaces := d.interfaces
    genericParameters := d.genericParameters }

/-- Declare operators on a type one after another, up to the first that is refused. -/
def declareAll (declaring : Token) : List PendingOperator → Universe → Except Error Unit × Universe
  | [], u => (.ok (), u)
  | pending :: rest, u =>
    match u.declareOperator declaring pending.input pending.output pending.isImplicit
      pending.procedure with
    | .ok (_, u) => declareAll declaring rest u
    | .error e => (.error e, u)

/-- Add the declared type and its operators to a universe. -/
def build (d : Declaration) (u : Universe) : Except Error TypeDescriptor × Universe :=
  match d.descriptor with
  | .error e => (.error e, u)
  | .ok t =>
    match u.register t with
    | .error e => (.error e, u)
    | .ok u =>
      let (outcome, u) := declareAll t.token d.operators u
      (outcome.map fun _ => t, u)

end Declaration

end TypeConversion
