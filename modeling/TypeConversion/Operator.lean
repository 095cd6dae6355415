import TypeConversion.Value

/-!
# User conversion operators

A conversion operator belongs to the type that declares it and converts one type to another by a
procedure. It is implicit or explicit.
-/

namespace TypeConversion

/-- A user conversion operator. -/
structure Operator where
  token : Token
  declaring : Token
  input : Token
  output : Token
  isImplicit : Bool
  signature : String
  procedure : Procedure

namespace Operator

/-- The method name of an implicit or an explicit operator. -/
def nameOf (isImplicit : Bool) : String :=
  if isImplicit then "op_Implicit" else "op_Explicit"

/-- The method name of an operator. -/
def name (o : Operator) : String := nameOf o.isImplicit

/-- Apply the operator's procedure. -/
def invoke (o : Operator) (v : Value) : Except Error Value := o.procedure v

end Operator

end TypeConversion
