import TypeConversion.Plan
import TypeConversion.Universe.Hierarchy

/-!
# Conversion programs

A plan is performed by a list of instructions on one value. A block that is lifted over an optional
is nested inside its instruction.

* `Plan.program` is the program of a plan. Conversions that leave the value as it is, such as the
  identity and casts within one kind, have no instruction.
-/

namespace TypeConversion

/-- One step of a conversion program. -/
inductive Instruction
  /-- Take the content out of an optional. -/
  | unwrap
  /-- Run a block on the content of an optional; an empty one stays empty. -/
  | lift (block : List Instruction)
  /-- Cast a number. -/
  | cast (numeric : NumericCast)
  /-- Box a value under a type. -/
  | box (type : Token)
  /-- Take a value out of its box, which has to be of the target type. -/
  | unbox (target : TypeDescriptor) (nullable : Bool)
  /-- Take a reference as one of a wider type. -/
  | upcast
  /-- Test a reference for being one of the target type. -/
  | downcast (target : TypeDescriptor)
  /-- Apply a user operator. -/
  | invoke (operator : Operator)
  /-- Apply a host converter. -/
  | invokeHost (procedure : Procedure)
  /-- Make an optional of a value. -/
  | wrap

/-! ## Lowering -/

/-- The instruction of a cast; a cast within one kind needs none. -/
def NumericCast.program (c : NumericCast) : List Instruction :=
  if c.operation = .identity then [] else [.cast c]

/-- The instructions for the content of an optional. -/
def Conversion.contentProgram : Conversion → List Instruction
  | .numeric _ cast | .enumeration cast => cast.program
  | _ => []

/-- A block on a value that may have to be taken out of an optional and put back into one: lifted if
both. -/
def Instruction.throughOptional (unwraps wraps : Bool) (block : List Instruction) :
    List Instruction :=
  if unwraps && wraps then [.lift block]
  else (if unwraps then [.unwrap] else []) ++ block ++ (if wraps then [.wrap] else [])

/-- The program of an operator between its splices. An operator that only wraps its result leaves
that to the splice after it. -/
def Instruction.liftOperator (unwraps wraps : Bool) (block : List Instruction) :
    List Instruction :=
  match unwraps, wraps with
  | true, true => [.lift block]
  | true, false => .unwrap :: block
  | false, _ => block

mutual

/-- The program of a conversion between two types. -/
def Conversion.program (u : Universe) (source target : TypeDescriptor) :
    Conversion → List Instruction
  | .identity => []
  | .numeric _ cast | .enumeration cast => cast.program
  | .nullable _ unwraps wraps underlying =>
    Instruction.throughOptional unwraps wraps underlying.contentProgram
  | .box => [.box (u.unwrapOptional source).token]
  | .unbox => [.unbox (u.unwrapOptional target) target.isOptional]
  | .implicitReference => [.upcast]
  | .explicitReference => [.downcast target]
  | .userDefined operator unwraps wraps before after _ =>
    Instruction.liftOperator unwraps wraps
      (before.program u ++ .invoke operator :: after.program u)
  | .host procedure _ _ before after => before.program u ++ .invokeHost procedure :: after.program u

/-- The program of a spliced conversion. -/
def Splice.program (u : Universe) : Splice → List Instruction
  | .absent => []
  | .along source target conversion => conversion.program u source target

end

/-- The program of a plan. -/
def Plan.program (u : Universe) (p : Plan) : List Instruction :=
  p.conversion.program u p.source p.target

/-! ## Text -/

mutual

/-- The text of an instruction. -/
def Instruction.text : Instruction → String
  | .unwrap => "unwrap"
  | .lift block => "lift(" ++ blockText block ++ ")"
  | .cast c => c.mnemonic c.canOverflow
  | .box type => "box " ++ type.text
  | .unbox target nullable => "unbox.any " ++ target.fullName ++ (if nullable then "?" else "")
  | .upcast => "nop"
  | .downcast target => "castclass " ++ target.fullName
  | .invoke operator => "call " ++ operator.signature
  | .invokeHost _ => "call <host>"
  | .wrap => "wrap"

/-- The texts of a block, separated by commas. -/
def Instruction.blockText : List Instruction → String
  | [] => ""
  | [last] => last.text
  | first :: rest => first.text ++ ", " ++ blockText rest

end

end TypeConversion
