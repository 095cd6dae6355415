import TypeConversion.Universe.Basic

/-!
# Constructed types

Optionals, arrays and generic instances are built from other types. A construction gives the same
type each time it is asked for; the first time it takes the next token of the table of constructed
types.
-/

namespace TypeConversion.Universe

/-- The type of a construction: the one built before, or a new one made for the next token. -/
def construct (u : Universe) (key : ConstructionKey) (make : Token → TypeDescriptor) :
    TypeDescriptor × Universe :=
  match u.constructions.lookup key with
  | some token =>
    match u.find? token with
    | some known => (known, u)
    | none => (make token, u.publish (make token))
  | none =>
    let token := Token.ofParts Token.constructedTable u.nextConstructed
    let made := make token
    (made,
      { u.publish made with
        constructions := (key, token) :: u.constructions
        nextConstructed := u.nextConstructed + 1 })

/-- The optional of a value type that is not itself an optional. -/
def optionalOf (u : Universe) (inner : TypeDescriptor) :
    Except Error (TypeDescriptor × Universe) :=
  if !inner.isValueType || inner.isOptional then
    .error (.typeFault (.optionalOf inner.fullName))
  else
    .ok <| u.construct (.optional inner.token) fun token =>
      { token := token
        namespaceName := "System"
        name := "Nullable\x601<" ++ inner.fullName ++ ">"
        kind := .optional
        flags := { isSealed := true }
        base := some FrameworkType.valueType.token
        element := some inner.token
        genericDefinition := some FrameworkType.nullable.token
        genericArguments := [inner.token] }

/-- The ending of the name of an array: one comma for each dimension after the first. -/
def rankSuffix (rank : Nat) : String :=
  "[" ++ String.ofList (List.replicate (rank - 1) ',') ++ "]"

/-- The array of a type with at least one dimension. -/
def arrayOf (u : Universe) (element : TypeDescriptor) (rank : Nat) :
    Except Error (TypeDescriptor × Universe) :=
  if rank = 0 then .error (.typeFault .rankZero)
  else if element.isGenericDefinition then .error (.typeFault (.arrayOfOpen element.fullName))
  else
    .ok <| u.construct (.array element.token rank) fun token =>
      { token := token
        namespaceName := element.namespaceName
        name := element.name ++ rankSuffix rank
        kind := .array rank
        flags := { isSealed := true }
        base := some FrameworkType.array.token
        interfaces := FrameworkType.array.descriptor.interfaces
        element := some element.token }

/-- The instance of a generic definition with the given arguments. The instance of the generic
optional is the optional of its argument. -/
def instantiate (u : Universe) (definition : TypeDescriptor) (arguments : List TypeDescriptor) :
    Except Error (TypeDescriptor × Universe) :=
  if !definition.isGenericDefinition then
    .error (.typeFault (.notGenericDefinition definition.fullName))
  else if definition.genericParameters.length ≠ arguments.length then
    .error (.typeFault (.argumentCount definition.fullName definition.genericParameters.length
      arguments.length))
  else match arguments.find? TypeDescriptor.isGenericDefinition with
  | some opened => .error (.typeFault (.openArgument opened.fullName))
  | none =>
    match definition.isFramework .nullable, arguments with
    | true, inner :: _ => u.optionalOf inner
    | _, _ =>
      let tokens := arguments.map TypeDescriptor.token
      let names := ",".intercalate (arguments.map TypeDescriptor.fullName)
      .ok <| u.construct (.generic definition.token tokens) fun token =>
        { token := token
          namespaceName := definition.namespaceName
          name := definition.name ++ "<" ++ names ++ ">"
          kind := definition.kind
          flags := { definition.flags with isGenericDefinition := false }
          base := definition.base
          interfaces := definition.interfaces
          genericDefinition := some definition.token
          genericArguments := tokens }

end TypeConversion.Universe
