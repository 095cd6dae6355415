import TypeConversion.Universe.Hierarchy

/-!
# Declared operators

A type declares conversion operators to or from itself or its optional. Every declaration takes a
new token and advances the generation, which tells later readers that the operators have changed.
-/

namespace TypeConversion.Universe

/-- The operators that a type declares, in the order of their declaration. -/
def operatorsDeclaredBy (u : Universe) (t : TypeDescriptor) : List Operator :=
  u.operators.filter fun o => o.declaring == t.token

/-- Neither side of an operator may be an interface or the universal object. -/
def checkOperatorSide (declaring side : TypeDescriptor) : Except Error Unit :=
  if side.isInterface || side.isFramework .object then
    .error (.typeFault (.operatorOn declaring.fullName side.fullName))
  else .ok ()

/-- The text of an operator's signature. -/
def operatorSignature (declaring input output : TypeDescriptor) (isImplicit : Bool) : String :=
  declaring.fullName ++ "." ++ Operator.nameOf isImplicit ++ "(" ++ input.fullName ++ ") -> " ++
    output.fullName

/-- Declare an operator on a type. Its types have to be known and to differ, one of them has to be
the declaring type or its optional, and a type declares at most one operator for a pair. -/
def declareOperator (u : Universe) (declaring input output : Token) (isImplicit : Bool)
    (procedure : Procedure) : Except Error (Operator × Universe) := do
  let declaringType ← u.resolve declaring
  let inputType ← u.resolve input
  let outputType ← u.resolve output
  if input = output then
    throw (.typeFault (.operatorToItself declaringType.fullName inputType.fullName))
  if (u.unwrapOptional inputType).token ≠ declaring
      ∧ (u.unwrapOptional outputType).token ≠ declaring then
    throw (.typeFault (.operatorElsewhere declaringType.fullName))
  checkOperatorSide declaringType inputType
  checkOperatorSide declaringType outputType
  if u.operators.any fun o =>
      o.declaring == declaring && o.input == input && o.output == output then
    throw (.typeFault (.operatorRepeated declaringType.fullName inputType.fullName
      outputType.fullName))
  let declared : Operator :=
    { token := .ofParts Token.operatorTable u.nextOperator
      declaring := declaring
      input := input
      output := output
      isImplicit := isImplicit
      signature := operatorSignature declaringType inputType outputType isImplicit
      procedure := procedure }
  return (declared,
    { u with
      operators := u.operators ++ [declared]
      nextOperator := u.nextOperator + 1
      operatorGeneration := u.operatorGeneration + 1 })

end TypeConversion.Universe
