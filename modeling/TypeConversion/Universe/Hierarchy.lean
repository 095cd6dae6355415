import TypeConversion.Universe.Basic

/-!
# Bases, interfaces and arguments

What the types of a universe mention, looked up in the universe.

* `Universe.ancestors` is the chain of bases, nearest first; `Universe.isSubclassOf` asks whether a
  type is on it.
* `Universe.interfacesOf` lists the interfaces of a type: those that its bases and itself list, each
  followed by the interfaces that it lists in turn, and none of them twice.
* `Universe.unwrapOptional` is the type inside an optional.
-/

namespace TypeConversion.Universe

/-! ## Bases -/

/-- The base of a type. -/
def baseOf? (u : Universe) (t : TypeDescriptor) : Option TypeDescriptor :=
  t.base.bind u.find?

/-- The bases from a token on, at most as many as the first argument says. -/
def baseChain (u : Universe) : Nat → Option Token → List TypeDescriptor
  | 0, _ => []
  | _, none => []
  | count + 1, some token =>
    match u.find? token with
    | some base => base :: baseChain u count base.base
    | none => []

/-- The bases of a type, nearest first. A chain without repetition has no more types than the
universe. -/
def ancestors (u : Universe) (t : TypeDescriptor) : List TypeDescriptor :=
  u.baseChain u.types.length t.base

/-- Whether a type or one of its bases names `ancestor` as its base. -/
def isSubclassOf (u : Universe) (t ancestor : TypeDescriptor) : Bool :=
  (t :: u.ancestors t).any fun s => s.base == some ancestor.token

/-! ## Interfaces -/

/-- Follow the pending interfaces depth first. An interface already found is skipped, a new one is
added at the end and what it lists is followed next. -/
def collectInterfaces (u : Universe) :
    Nat → List Token → List TypeDescriptor → List TypeDescriptor
  | 0, _, found => found
  | _, [], found => found
  | count + 1, token :: pending, found =>
    if found.any fun t => t.token == token then u.collectInterfaces count pending found
    else
      match u.find? token with
      | some listed =>
        u.collectInterfaces count (listed.interfaces ++ pending) (found ++ [listed])
      | none => u.collectInterfaces count pending found

/-- The interfaces listed along the chain of bases, nearest base first, and then by the type. -/
def listedInterfaces (u : Universe) (t : TypeDescriptor) : List Token :=
  (u.ancestors t).flatMap TypeDescriptor.interfaces ++ t.interfaces

/-- The interfaces of a type. Each type's list is followed at most once, which bounds the steps. -/
def interfacesOf (u : Universe) (t : TypeDescriptor) : List TypeDescriptor :=
  let pending := u.listedInterfaces t
  let steps := pending.length + (u.types.flatMap TypeDescriptor.interfaces).length
  u.collectInterfaces steps pending []

/-- Whether an interface is among those of a type. -/
def implements (u : Universe) (t implemented : TypeDescriptor) : Bool :=
  (u.interfacesOf t).any fun s => s.token == implemented.token

/-! ## Elements and generic arguments -/

/-- The element of an array or of an optional. -/
def elementOf? (u : Universe) (t : TypeDescriptor) : Option TypeDescriptor :=
  t.element.bind u.find?

/-- The type inside an optional; any other type is itself. -/
def unwrapOptional (u : Universe) (t : TypeDescriptor) : TypeDescriptor :=
  if t.isOptional then (u.elementOf? t).getD t else t

/-- The definition of a generic instance. -/
def genericDefinitionOf? (u : Universe) (t : TypeDescriptor) : Option TypeDescriptor :=
  t.genericDefinition.bind u.find?

/-- The arguments of a generic instance. -/
def genericArgumentsOf (u : Universe) (t : TypeDescriptor) : List TypeDescriptor :=
  t.genericArguments.filterMap u.find?

end TypeConversion.Universe
