import TypeConversion.Universe.Basic

/-!
# The types of values

A boxed value and an instance carry the token of their type; strings, truth values and numbers have
the type of their form. The null reference and optionals have no type of their own.
-/

namespace TypeConversion.Universe

/-- The type that a value shows when it runs. -/
def runtimeType? (u : Universe) : Value → Option TypeDescriptor
  | .boxed type _ | .object type _ _ => u.find? type
  | .string _ => some FrameworkType.string.descriptor
  | .bool _ => some FrameworkType.boolean.descriptor
  | .number n => some n.kind.descriptor
  | .null | .empty | .present _ => none

end TypeConversion.Universe
