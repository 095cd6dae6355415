import TypeConversion.Standard
import TypeConversion.UserDefined.Visible

/-!
# Resolution of user-defined conversions

Which operator converts one type to another. An operator is a candidate if the source relates to
its input and its output to the target; over optionals an operator on value types may be lifted.

* The input type of the choice is the source itself if a candidate takes it; else, among the inputs
  that the source converts to implicitly, the one that converts to all others; else, among all
  inputs, the one that all others convert to. The output type is chosen the same way round the
  other end.
* The choice is the candidate with the chosen types. Where a type cannot be chosen, or several
  candidates have the chosen types, the conversion is ambiguous.
-/

namespace TypeConversion

/-- How closely two types are related, the closest first. -/
inductive Closeness
  | exact
  | implicit
  | explicit
  deriving DecidableEq, Repr

/-- How one type relates to another, with the conversion that is needed. -/
structure TypeRelation where
  closeness : Closeness
  conversion : Option Conversion

/-- How one type relates to another by identity or by a standard conversion. -/
def relate? (u : Universe) (source target : TypeDescriptor) : Option TypeRelation :=
  if source.token = target.token then some ⟨.exact, none⟩ else
  (classifyStandard u source target).map fun conversion =>
    ⟨if conversion.isImplicit then .implicit else .explicit, some conversion⟩

/-- An operator that fits a request. The types `source` and `target` are those of the request, or
their contents where the operator is lifted. -/
structure Candidate where
  operator : Operator
  input : TypeDescriptor
  output : TypeDescriptor
  source : TypeDescriptor
  target : TypeDescriptor
  unwraps : Bool
  wraps : Bool
  toInput : TypeRelation
  fromOutput : TypeRelation

/-- A chosen operator with the conversions around it. -/
structure UserDefinedConversion where
  operator : Operator
  unwraps : Bool
  wraps : Bool
  before : Splice
  after : Splice
  isImplicit : Bool

/-- The conversion that applies a chosen operator. -/
def UserDefinedConversion.conversion (c : UserDefinedConversion) : Conversion :=
  .userDefined c.operator c.unwraps c.wraps c.before c.after c.isImplicit

/-- The outcome of a resolution. -/
inductive Resolution
  | found (conversion : UserDefinedConversion)
  | ambiguous (candidates : List Operator)
  | notFound

namespace Candidate

/-- Whether an operator on `side` is lifted over an optional `requested`. -/
def lifts (requested side : TypeDescriptor) : Bool :=
  requested.isOptional && side.isValueType && !side.isOptional

/-- The operator as a candidate for a request, if both of its sides relate to it. -/
def ofOperator? (u : Universe) (source target : TypeDescriptor) (operator : Operator) :
    Option Candidate := do
  let input ← u.find? operator.input
  let output ← u.find? operator.output
  let unwraps := lifts source input
  let wraps := unwraps && lifts target output
  let source := if unwraps then u.unwrapOptional source else source
  let target := if wraps then u.unwrapOptional target else target
  let toInput ← relate? u source input
  let fromOutput ← relate? u output target
  return { operator, input, output, source, target, unwraps, wraps, toInput, fromOutput }

/-- Whether the candidate applies without being asked for: its operator is implicit, so are the
conversions around it, and no content is taken out of an optional that is not put back. -/
def isImplicit (c : Candidate) : Bool :=
  c.operator.isImplicit && c.toInput.closeness != .explicit && c.fromOutput.closeness != .explicit
    && !(c.unwraps && !c.wraps)

/-- The conversion from one type to another as a splice. -/
def splice (source target : TypeDescriptor) : Option Conversion → Splice
  | none => .absent
  | some conversion => .along source target conversion

/-- The conversion that applies the candidate. -/
def conversion (c : Candidate) : UserDefinedConversion :=
  { operator := c.operator
    unwraps := c.unwraps
    wraps := c.wraps
    before := splice c.source c.input c.toInput.conversion
    after := splice c.output c.target c.fromOutput.conversion
    isImplicit := c.isImplicit }

end Candidate

namespace Resolution

/-! ## The choice of a type -/

/-- The only item of a list. -/
def single? {α : Type} : List α → Option α
  | [x] => some x
  | _ => none

/-- The one type that converts implicitly to all others. -/
def mostEncompassed? (u : Universe) (types : List TypeDescriptor) : Option Token :=
  (single? (types.filter fun x => types.all fun y => convertsImplicitly u x y)).map (·.token)

/-- The one type that all others convert to implicitly. -/
def mostEncompassing? (u : Universe) (types : List TypeDescriptor) : Option Token :=
  (single? (types.filter fun x => types.all fun y => convertsImplicitly u y x)).map (·.token)

/-- The closest relation among the candidates on one side. -/
def closest (closeness : Candidate → Closeness) (candidates : List Candidate) : Closeness :=
  if candidates.any fun c => closeness c == .exact then .exact
  else if candidates.any fun c => closeness c == .implicit then .implicit
  else .explicit

/-- The type of one side for an exact relation: that of a candidate which is not lifted there, if
there is one. -/
def exactType? (closeness : Candidate → Closeness) (lifted : Candidate → Bool)
    (type : Candidate → TypeDescriptor) (candidates : List Candidate) : Option Token :=
  let exact := candidates.filter fun c => closeness c == .exact
  ((exact.find? fun c => !lifted c).or exact.head?).map fun c => (type c).token

/-- The distinct types of one side. -/
def typesOf (type : Candidate → TypeDescriptor) (candidates : List Candidate) :
    List TypeDescriptor :=
  Token.distinct TypeDescriptor.token (candidates.map type)

/-- The input type of the choice. -/
def inputType? (u : Universe) (candidates : List Candidate) : Option Token :=
  let closeness (c : Candidate) := c.toInput.closeness
  match closest closeness candidates with
  | .exact => exactType? closeness Candidate.unwraps Candidate.input candidates
  | .implicit =>
    mostEncompassed? u
      (typesOf Candidate.input (candidates.filter fun c => closeness c == .implicit))
  | .explicit => mostEncompassing? u (typesOf Candidate.input candidates)

/-- The output type of the choice. -/
def outputType? (u : Universe) (candidates : List Candidate) : Option Token :=
  let closeness (c : Candidate) := c.fromOutput.closeness
  match closest closeness candidates with
  | .exact => exactType? closeness Candidate.wraps Candidate.output candidates
  | .implicit =>
    mostEncompassing? u
      (typesOf Candidate.output (candidates.filter fun c => closeness c == .implicit))
  | .explicit => mostEncompassed? u (typesOf Candidate.output candidates)

/-! ## The choice of an operator -/

/-- The choice among candidates. -/
def choose (u : Universe) (candidates : List Candidate) : Resolution :=
  if candidates.isEmpty then .notFound else
  match inputType? u candidates, outputType? u candidates with
  | some input, some output =>
    match candidates.filter fun c => c.input.token == input && c.output.token == output with
    | [winner] => .found winner.conversion
    | [] => .ambiguous (candidates.map Candidate.operator)
    | several => .ambiguous (several.map Candidate.operator)
  | _, _ => .ambiguous (candidates.map Candidate.operator)

/-- The operators of a pool that fit a request. -/
def candidates (u : Universe) (pool : List Operator) (source target : TypeDescriptor) :
    List Candidate :=
  pool.filterMap (Candidate.ofOperator? u source target)

/-- The resolution of a request over a pool of operators. -/
def ofPool (u : Universe) (pool : List Operator) (source target : TypeDescriptor) : Resolution :=
  choose u (candidates u pool source target)

end Resolution

/-- The operators visible on both types of a request, taken out of their optionals. -/
def Universe.operatorPool (u : Universe) (source target : TypeDescriptor) : List Operator :=
  Token.distinct Operator.token
    (u.visibleOperators (u.unwrapOptional source) ++ u.visibleOperators (u.unwrapOptional target))

/-- The user-defined conversion from one type to another. -/
def Universe.resolveUserDefined (u : Universe) (source target : TypeDescriptor) : Resolution :=
  Resolution.ofPool u (u.operatorPool source target) source target

namespace OperatorCache

/-- The pool of operators for a request, by way of the cache. -/
def pool (c : OperatorCache) (u : Universe) (source target : TypeDescriptor) :
    List Operator × OperatorCache :=
  let (ofSource, c) := c.visible u (u.unwrapOptional source)
  let (ofTarget, c) := c.visible u (u.unwrapOptional target)
  (Token.distinct Operator.token (ofSource ++ ofTarget), c)

/-- The user-defined conversion from one type to another, by way of the cache. -/
def resolve (c : OperatorCache) (u : Universe) (source target : TypeDescriptor) :
    Resolution × OperatorCache :=
  let (pool, c) := c.pool u source target
  (Resolution.ofPool u pool source target, c)

end OperatorCache

end TypeConversion
