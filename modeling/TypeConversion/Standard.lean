import TypeConversion.Plan
import TypeConversion.Reference

/-!
# Standard conversions

The conversions that two types have by themselves, without an operator or the host.

* `classifyStandard` finds the standard conversion from one type to another, if there is one: the
  identity, a conversion between value types, boxing and unboxing, and the reference conversions.
* `classifyValue` is its part for value types: the conversion of the contents, wrapped where one of
  the types is an optional. Taking the content out of an optional is never implicit.
-/

namespace TypeConversion

/-- The conversion between two value types that are not optionals. -/
def classifyContent (source target : TypeDescriptor) : Option Conversion :=
  if source.token = target.token then some .identity else
  match source.numericKind?, target.numericKind? with
  | some sourceKind, some targetKind =>
    if source.isEnum || target.isEnum then some (.enumeration ⟨sourceKind, targetKind⟩)
    else
      some (.numeric (NumericRelation.between sourceKind targetKind != .explicit)
        ⟨sourceKind, targetKind⟩)
  | _, _ => none

/-- The conversion between two value types. -/
def classifyValue (u : Universe) (source target : TypeDescriptor) : Option Conversion :=
  if !source.isValueType || !target.isValueType then none else
  match classifyContent (u.unwrapOptional source) (u.unwrapOptional target) with
  | none => none
  | some content =>
    if !source.isOptional && !target.isOptional then some content
    else
      some (.nullable (content.isImplicit && target.isOptional) source.isOptional target.isOptional
        content)

/-- The conversion between two references. -/
def classifyReference (u : Universe) (source target : TypeDescriptor) : Option Conversion :=
  if isImplicitReference u source target then some .implicitReference
  else if isExplicitReference u source target then some .explicitReference
  else none

/-- The standard conversion between two types. -/
def classifyStandard (u : Universe) (source target : TypeDescriptor) : Option Conversion :=
  if source.token = target.token then some .identity else
  match classifyValue u source target with
  | some conversion => some conversion
  | none =>
    if source.isValueType && target.isReferenceType then
      if isBoxingTarget u source target then some .box else none
    else if source.isReferenceType && target.isValueType then
      if isBoxingTarget u target source then some .unbox else none
    else classifyReference u source target

/-- Whether one type is another or converts to it by an implicit standard conversion. -/
def convertsImplicitly (u : Universe) (source target : TypeDescriptor) : Bool :=
  source.token == target.token ||
    match classifyStandard u source target with
    | some conversion => conversion.isImplicit
    | none => false

end TypeConversion
