import TypeConversion.Program
import TypeConversion.Standard
import TypeConversion.Universe.Values

/-!
# Converters

A converter is a plan with its program and a mode for overflowing casts. It runs on one value.

* `Instruction.run` is the effect of one instruction, `Instruction.runAll` that of a block, which
  stops at the first error.
* `Converter.convert` runs a converter's program.
-/

namespace TypeConversion

/-- What instructions are run with: the universe of the moment, the mode of casts, and the name of
the type that the whole conversion is for. -/
structure Execution where
  types : Universe
  overflow : OverflowMode
  targetName : String

/-- Whether a value boxed under a type can be taken out as the target type: the same type, or two
that count with the same numbers, one of them an enumeration. -/
def Universe.unboxesTo (u : Universe) (type : Token) (target : TypeDescriptor) : Bool :=
  type == target.token ||
    match u.find? type with
    | some runtime =>
      (runtime.isEnum || target.isEnum) && runtime.numericKind?.isSome
        && runtime.numericKind? == target.numericKind?
    | none => false

/-- The name of a type in an error, or its token where it is not known. -/
def Universe.nameOrToken (u : Universe) (token : Token) : String :=
  match u.find? token with
  | some t => t.fullName
  | none => token.text

/-- Take a value of the target type out of a box of the given type. -/
def Universe.unboxContent (u : Universe) (target : TypeDescriptor) (nullable : Bool)
    (type : Token) (content : Value) : Except Error Value :=
  if u.unboxesTo type target then .ok (if nullable then .present content else content)
  else .error (.invalidCast (u.nameOrToken type) target.fullName)

/-- Take a value of the target type out of its box. Null gives the empty optional if there is one to
give; a value without a box counts as one of its own type. -/
def Universe.unboxValue (u : Universe) (target : TypeDescriptor) (nullable : Bool)
    (v : Value) : Except Error Value :=
  match v with
  | .null | .empty => if nullable then .ok .empty else .error (.nullReference target.fullName)
  | .boxed type content => u.unboxContent target nullable type content
  | other =>
    match u.runtimeType? other with
    | some runtime => u.unboxContent target nullable runtime.token other
    | none => .error (.invalidCast other.typeName target.fullName)

/-- Whether a value of a runtime type is a reference of the target type. -/
def Universe.isInstanceOf (u : Universe) (runtime target : TypeDescriptor) : Bool :=
  target.isFramework .object ||
    match classifyStandard u runtime target with
    | some .identity | some .implicitReference | some .box => true
    | _ => false

/-- Test a reference for being one of the target type. Null is one of every type. -/
def Universe.downcastValue (u : Universe) (target : TypeDescriptor) (v : Value) :
    Except Error Value :=
  if v.isNull then .ok v else
  match u.runtimeType? v with
  | none => .error (.invalidCast v.typeName target.fullName)
  | some runtime =>
    if u.isInstanceOf runtime target then .ok v
    else .error (.invalidCast runtime.fullName target.fullName)

/-- Box a value under a type. An optional is boxed as its content, and null and the empty optional
have no box. -/
def Value.box (type : Token) : Value → Value
  | .present content => .boxed type content
  | .empty | .null => .null
  | other => .boxed type other

/-- Take the content out of an optional. A value that is no optional stays itself. -/
def Value.unwrap (targetName : String) : Value → Except Error Value
  | .present content => .ok content
  | .empty | .null => .error (.emptyOptional targetName)
  | other => .ok other

/-- Apply a conversion to the content of an optional. Null counts as the empty optional, and a value
that is no optional as its own content. -/
def Value.lift (convert : Value → Except Error Value) : Value → Except Error Value
  | .empty | .null => .ok .empty
  | .present content => do return (← convert content).wrap
  | other => do return (← convert other).wrap

mutual

/-- The effect of an instruction on a value. -/
def Instruction.run (x : Execution) : Instruction → Value → Except Error Value
  | .unwrap, v => v.unwrap x.targetName
  | .lift block, v => v.lift (runAll x block)
  | .cast c, v => v.cast c x.overflow
  | .box type, v => .ok (v.box type)
  | .unbox target nullable, v => x.types.unboxValue target nullable v
  | .upcast, v => .ok v
  | .downcast target, v => x.types.downcastValue target v
  | .invoke operator, v => operator.invoke v
  | .invokeHost procedure, v => procedure v
  | .wrap, v => .ok v.wrap

/-- The effect of a block on a value. -/
def Instruction.runAll (x : Execution) : List Instruction → Value → Except Error Value
  | [], v => .ok v
  | first :: rest, v =>
    match first.run x v with
    | .ok w => runAll x rest w
    | .error e => .error e

end

/-- A block of two parts runs its first part and then, if that succeeds, its second. -/
theorem Instruction.runAll_append (x : Execution) (first rest : List Instruction) (v : Value) :
    runAll x (first ++ rest) v = (runAll x first v).bind (runAll x rest) := by
  induction first generalizing v with
  | nil => rfl
  | cons i first ih =>
    simp only [List.cons_append, runAll]
    cases i.run x v with
    | ok w => exact ih w
    | error e => rfl

/-- A plan with its program and its mode. -/
structure Converter where
  plan : Plan
  program : List Instruction
  overflow : OverflowMode

namespace Converter

/-- The converter of a plan. -/
def ofPlan (u : Universe) (plan : Plan) (overflow : OverflowMode) : Converter :=
  ⟨plan, plan.program u, overflow⟩

/-- Whether the converter's plan applies without being asked for. -/
def isImplicit (c : Converter) : Bool := c.plan.isImplicit

/-- Convert a value. -/
def convert (c : Converter) (u : Universe) (v : Value) : Except Error Value :=
  Instruction.runAll ⟨u, c.overflow, c.plan.target.fullName⟩ c.program v

end Converter

end TypeConversion
