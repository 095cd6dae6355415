import TypeConversion.Configuration
import TypeConversion.Host
import TypeConversion.UserDefined.Resolution

/-!
# Classification

Which conversion applies to a pair of types: a standard one if there is one, else a user-defined
one, else one of the host, as far as the configuration admits them.
-/

namespace TypeConversion

/-- The outcome of asking for a conversion. -/
inductive Classification
  | convertible (plan : Plan)
  | noConversion
  | ambiguous (candidates : List Operator)

namespace Classification

/-- Whether there is a conversion. -/
def isConvertible : Classification → Bool
  | convertible _ => true
  | noConversion | ambiguous _ => false

/-- Whether several operators apply and none is the best. -/
def isAmbiguous : Classification → Bool
  | ambiguous _ => true
  | convertible _ | noConversion => false

/-- The plan of the conversion. -/
def plan? : Classification → Option Plan
  | convertible plan => some plan
  | noConversion | ambiguous _ => none

/-- The rule that the conversion comes from. -/
def category? (c : Classification) : Option ConversionCategory := c.plan?.map Plan.category

/-- The outcome of asking the host for a pair without another conversion. -/
def ofHost (source target : TypeDescriptor) : Option HostConversion → Classification
  | some conversion => convertible ⟨source, target, conversion.conversion⟩
  | none => noConversion

end Classification

/-- The user-defined resolution that the configuration admits, by way of the operator cache. -/
def resolveConfigured (config : Configuration) (u : Universe) (operators : OperatorCache)
    (source target : TypeDescriptor) : Resolution × OperatorCache :=
  if config.userDefined then operators.resolve u source target else (.notFound, operators)

/-- The host conversion that the configuration admits. -/
def hostConfigured {m : Type → Type} [Monad m] (config : Configuration) (u : Universe)
    (host : HostRegistry m) (source target : TypeDescriptor) : m (Option HostConversion) :=
  if config.hostConverters then host.resolve u source target else pure none

/-- Classify a pair of types, by way of the operator cache. -/
def classify {m : Type → Type} [Monad m] (config : Configuration) (u : Universe)
    (operators : OperatorCache) (host : HostRegistry m) (source target : TypeDescriptor) :
    m (Classification × OperatorCache) :=
  match classifyStandard u source target with
  | some conversion => pure (.convertible ⟨source, target, conversion⟩, operators)
  | none =>
    match resolveConfigured config u operators source target with
    | (.found conversion, operators) =>
      pure (.convertible ⟨source, target, conversion.conversion⟩, operators)
    | (.ambiguous candidates, operators) => pure (.ambiguous candidates, operators)
    | (.notFound, operators) => do
      let found ← hostConfigured config u host source target
      pure (.ofHost source target found, operators)

end TypeConversion
