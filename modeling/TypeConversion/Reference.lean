import TypeConversion.Universe.Hierarchy

/-!
# Reference conversions

Which reference types convert to which without a change of the value: always (implicit) or after a
test of the value (explicit).

* A reference converts implicitly to the universal object, to its bases, to its interfaces, between
  arrays along their elements, from an array of one dimension to the list interfaces, and between
  instances of one generic definition along the variance of its parameters.
* The explicit conversions go the other way and, between types that a value could share, sideways.

The rules ask for conversions between elements and arguments in turn. Each of them is written once,
with the relation on the smaller types as a parameter, and `isImplicitReference` and
`isExplicitReference` unfold it as often as a chain of distinct pairs of types can be long.
-/

namespace TypeConversion.Reference

/-- A relation on types. -/
abbrev Relation := TypeDescriptor → TypeDescriptor → Bool

/-! ## The rules -/

/-- Whether two arguments may stand for a parameter in instances that convert along `direct`, the
relation for a covariant parameter, or `reversed`, that for a contravariant one. -/
def argumentConverts (direct reversed : Relation) (parameter : GenericParameter)
    (a b : TypeDescriptor) : Bool :=
  a.token == b.token ||
    match parameter.variance with
    | .invariant => false
    | .covariant => direct a b
    | .contravariant => reversed a b

/-- Whether two lists of arguments stand for the parameters pairwise, as far as all lists go. -/
def argumentsConvert (direct reversed : Relation) :
    List GenericParameter → List TypeDescriptor → List TypeDescriptor → Bool
  | parameter :: parameters, a :: as, b :: bs =>
    argumentConverts direct reversed parameter a b
      && argumentsConvert direct reversed parameters as bs
  | _, _, _ => true

/-- Whether an interface or a delegate converts to another instance of its definition. -/
def convertsByVariance (u : Universe) (direct reversed : Relation)
    (source target : TypeDescriptor) : Bool :=
  match source.genericDefinition, target.genericDefinition with
  | some sourceDefinition, some targetDefinition =>
    if sourceDefinition ≠ targetDefinition || !source.kind.admitsVariance then false else
    match u.find? sourceDefinition with
    | none => false
    | some definition =>
      definition.genericParameters.length == source.genericArguments.length
        && source.genericArguments.length == target.genericArguments.length
        && argumentsConvert direct reversed definition.genericParameters
          (u.genericArgumentsOf source) (u.genericArgumentsOf target)
  | _, _ => false

/-- Whether one interface converts implicitly to another instance of its definition. -/
def convertsImplicitlyByVariance (u : Universe) (implicit : Relation) : Relation :=
  convertsByVariance u implicit fun a b => implicit b a

/-- Whether a delegate converts explicitly to another instance of its definition: a covariant
argument by any reference conversion, a contravariant one between any two reference types. -/
def convertsExplicitlyByVariance (u : Universe) (implicit explicit : Relation) : Relation :=
  convertsByVariance u (fun a b => implicit a b || explicit a b)
    fun a b => a.isReferenceType && b.isReferenceType

/-- Whether a type has an interface that is the target or converts to it by variance. -/
def implementsVariant (u : Universe) (implicit : Relation)
    (t target : TypeDescriptor) : Bool :=
  !(t.isInterface && t.token == target.token) &&
    (u.interfacesOf t).any fun s =>
      s.token == target.token || convertsImplicitlyByVariance u implicit s target

/-- The element of an array of one dimension. -/
def lineElement? (u : Universe) (t : TypeDescriptor) : Option TypeDescriptor :=
  match t.kind with
  | .array 1 => u.elementOf? t
  | _ => none

/-- The elements of two arrays of one rank. -/
def parallelElements? (u : Universe) (source target : TypeDescriptor) :
    Option (TypeDescriptor × TypeDescriptor) :=
  if source.rank? = target.rank? then
    match u.elementOf? source, u.elementOf? target with
    | some a, some b => some (a, b)
    | _, _ => none
  else none

/-- The argument of an instance of a generic list interface. -/
def listArgument? (u : Universe) (list : TypeDescriptor) : Option TypeDescriptor :=
  match list.genericDefinition.bind FrameworkType.ofToken? with
  | some definition =>
    if definition.isListFamily then list.genericArguments.head?.bind u.find? else none
  | none => none

/-- Whether an array of `element` converts to `list`, an instance of a list interface whose
argument is the element or one that the element relates to by `converts`. -/
def listAccepts (u : Universe) (converts : Relation) (element list : TypeDescriptor) : Bool :=
  match listArgument? u list with
  | some argument => argument.token == element.token || converts element argument
  | none => false

/-- Whether both types are references and not the same type. -/
def distinctReferences (source target : TypeDescriptor) : Bool :=
  source.token != target.token && source.isReferenceType && target.isReferenceType

/-- The rules of implicit conversion, over the conversion of elements and arguments. -/
def implicitRule (u : Universe) (implicit : Relation) (source target : TypeDescriptor) : Bool :=
  if !distinctReferences source target then false
  else if target.isFramework .object then true
  else if target.isInterface then
    convertsImplicitlyByVariance u implicit source target
      || implementsVariant u implicit source target
      || match lineElement? u source with
        | some element => listAccepts u implicit element target
        | none => false
  else if u.isSubclassOf source target then true
  else if source.rank?.isSome && target.rank?.isSome then
    match parallelElements? u source target with
    | some (a, b) => implicit a b
    | none => false
  else convertsImplicitlyByVariance u implicit source target

/-- Whether an array and a list interface convert explicitly: the element and the argument by any
reference conversion from the one, or implicitly from the other. -/
def listAcceptsExplicitly (u : Universe) (implicit explicit : Relation)
    (array list : TypeDescriptor) : Bool :=
  match lineElement? u array with
  | some element =>
    listAccepts u (fun a b => implicit a b || explicit a b || implicit b a) element list
  | none => false

/-- The rules of explicit conversion between types that do not convert implicitly, over the
implicit conversion and over the explicit conversion of elements and arguments. -/
def explicitRule (u : Universe) (implicit explicit : Relation)
    (source target : TypeDescriptor) : Bool :=
  if !distinctReferences source target || implicit source target then false
  else if source.isFramework .object then true
  else
    match source.isInterface, target.isInterface with
    | false, false =>
      if u.isSubclassOf target source then true
      else if source.rank?.isSome && target.rank?.isSome then
        match parallelElements? u source target with
        | some (a, b) => explicit a b
        | none => false
      else convertsExplicitlyByVariance u implicit explicit source target
    | false, true => listAcceptsExplicitly u implicit explicit source target || !source.isSealed
    | true, false =>
      listAcceptsExplicitly u implicit explicit target source
        || !target.isSealed || u.implements target source
    | true, true => true

/-! ## The relations -/

/-- The implicit conversions found by unfolding the rules at most the given number of times. -/
def implicitWithin (u : Universe) : Nat → Relation
  | 0, _, _ => false
  | depth + 1, source, target => implicitRule u (implicitWithin u depth) source target

/-- A bound on the length of a chain of distinct ordered pairs of types, where the two types asked
about need not belong to the universe. -/
def depthBound (u : Universe) : Nat := 2 * ((u.types.length + 2) * (u.types.length + 2)) + 2

/-- The explicit conversions found by unfolding the rules at most the given number of times. -/
def explicitWithin (u : Universe) : Nat → Relation
  | 0, _, _ => false
  | depth + 1, source, target =>
    explicitRule u (implicitWithin u (depthBound u)) (explicitWithin u depth) source target

end TypeConversion.Reference

namespace TypeConversion

open Reference

/-- Whether every reference of the source type is one of the target type. -/
def isImplicitReference (u : Universe) : Relation := implicitWithin u (depthBound u)

/-- Whether a reference of the source type may be one of the target type, which a test of the value
decides. -/
def isExplicitReference (u : Universe) : Relation := explicitWithin u (depthBound u)

/-- Whether a type has an interface that is the target or converts to it by variance. -/
def implementsVariant (u : Universe) : Relation :=
  Reference.implementsVariant u (isImplicitReference u)

/-- Whether values of a value type can be boxed as references of the target type: the universal
object and the base of value types take all, the base of enumerations takes those, and an interface
takes what implements it. An optional boxes as its content. -/
def isBoxingTarget (u : Universe) (valueType target : TypeDescriptor) : Bool :=
  if !valueType.isValueType || !target.isReferenceType then false else
  let inner := u.unwrapOptional valueType
  match FrameworkType.ofToken? target.token with
  | some .object | some .valueType => true
  | some .enum => inner.isEnum
  | _ => target.isInterface && implementsVariant u inner target

end TypeConversion
