import TypeConversion.Numeric.Cast
import TypeConversion.Types.Descriptor
import TypeConversion.Operator

/-!
# Conversion plans

How a value of one type becomes a value of another. A user operator or a host converter may have a
conversion spliced in before and after it.

* `Conversion.isImplicit` says which conversions need not be asked for explicitly.
* `Conversion.category` names the rule that a conversion comes from.
-/

namespace TypeConversion

mutual

/-- How a conversion is performed. -/
inductive Conversion
  /-- The types are the same. -/
  | identity
  /-- A cast between numbers. -/
  | numeric (isImplicit : Bool) (cast : NumericCast)
  /-- A cast between enumerations and numbers. -/
  | enumeration (cast : NumericCast)
  /-- A conversion from or to an optional, by the conversion of the content. -/
  | nullable (isImplicit unwraps wraps : Bool) (underlying : Conversion)
  /-- A value becomes a reference to a copy of itself. -/
  | box
  /-- A reference becomes the value it refers to. -/
  | unbox
  /-- Every reference of the source is one of the target. -/
  | implicitReference
  /-- A reference is tested for being one of the target. -/
  | explicitReference
  /-- A user operator, which may be lifted over optionals. -/
  | userDefined (operator : Operator) (unwraps wraps : Bool) (before after : Splice)
    (isImplicit : Bool)
  /-- A converter that the host registered. -/
  | host (procedure : Procedure) (input output : Token) (before after : Splice)

/-- The conversion spliced in before or after a procedure, if there is one. -/
inductive Splice
  | absent
  | along (source target : TypeDescriptor) (conversion : Conversion)

end

/-- A conversion together with its two types. -/
structure Plan where
  source : TypeDescriptor
  target : TypeDescriptor
  conversion : Conversion

/-- The rules that conversions come from. -/
inductive ConversionCategory
  | identity
  | implicitNumeric
  | explicitNumeric
  | enumeration
  | implicitNullable
  | explicitNullable
  | box
  | unbox
  | implicitReference
  | explicitReference
  | userDefined
  | host
  deriving DecidableEq, Repr

/-- The name of a category. -/
def ConversionCategory.name : ConversionCategory → String
  | identity => "Identity"
  | implicitNumeric => "ImplicitNumeric"
  | explicitNumeric => "ExplicitNumeric"
  | enumeration => "Enum"
  | implicitNullable => "ImplicitNullable"
  | explicitNullable => "ExplicitNullable"
  | box => "Box"
  | unbox => "Unbox"
  | implicitReference => "ImplicitReference"
  | explicitReference => "ExplicitReference"
  | userDefined => "UserDefined"
  | host => "Host"

namespace Conversion

/-- The rule that a conversion comes from. -/
def category : Conversion → ConversionCategory
  | identity => .identity
  | numeric isImplicit _ => if isImplicit then .implicitNumeric else .explicitNumeric
  | enumeration _ => .enumeration
  | nullable isImplicit _ _ _ => if isImplicit then .implicitNullable else .explicitNullable
  | box => .box
  | unbox => .unbox
  | implicitReference => .implicitReference
  | explicitReference => .explicitReference
  | userDefined _ _ _ _ _ _ => .userDefined
  | host _ _ _ _ _ => .host

/-- Whether a conversion applies without being asked for. -/
def isImplicit : Conversion → Bool
  | identity | box | implicitReference => true
  | numeric isImplicit _ | nullable isImplicit _ _ _ | userDefined _ _ _ _ _ isImplicit =>
    isImplicit
  | enumeration _ | unbox | explicitReference | host _ _ _ _ _ => false

end Conversion

namespace Splice

/-- The spliced conversion as a plan. -/
def plan? : Splice → Option Plan
  | absent => none
  | along source target conversion => some ⟨source, target, conversion⟩

/-- Splice in a plan, if there is one. -/
def ofPlan? : Option Plan → Splice
  | none => absent
  | some plan => along plan.source plan.target plan.conversion

@[simp] theorem plan?_ofPlan? (plan : Option Plan) : (ofPlan? plan).plan? = plan := by
  cases plan <;> rfl

@[simp] theorem ofPlan?_plan? (splice : Splice) : ofPlan? splice.plan? = splice := by
  cases splice <;> rfl

end Splice

namespace Plan

/-- Whether the plan's conversion applies without being asked for. -/
def isImplicit (p : Plan) : Bool := p.conversion.isImplicit

/-- The rule that the plan's conversion comes from. -/
def category (p : Plan) : ConversionCategory := p.conversion.category

/-- The text of a plan: its types and its rule. -/
def text (p : Plan) : String :=
  p.source.fullName ++ " -> " ++ p.target.fullName ++ " [" ++ p.category.name ++ "]"

end Plan

end TypeConversion
