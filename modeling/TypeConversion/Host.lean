import TypeConversion.Standard

/-!
# Host converters

The host registers converters for pairs of types, and providers that are asked for a converter when
a pair comes up. A provider may keep state, so it answers in a monad `m`; a pure provider answers in
`Id`.

* `HostRegistry.resolve` looks for a converter of exactly the pair or a provider that has one,
  newest first; failing that, for the newest converter that implicit standard conversions connect
  to the pair.
-/

namespace TypeConversion

/-- A source of converters that is asked for a pair of types. -/
abbrev Provider (m : Type → Type) := TypeDescriptor → TypeDescriptor → m (Option Procedure)

/-- One registration of the host. -/
inductive HostEntry (m : Type → Type)
  | converter (input output : Token) (procedure : Procedure)
  | provider (provide : Provider m)

/-- The registrations of the host, newest first. -/
structure HostRegistry (m : Type → Type) where
  entries : List (HostEntry m) := []

/-- A host converter found for a pair, with the conversions that connect it to the pair. -/
structure HostConversion where
  procedure : Procedure
  input : Token
  output : Token
  before : Splice := .absent
  after : Splice := .absent

/-- The conversion that applies a host converter. -/
def HostConversion.conversion (c : HostConversion) : Conversion :=
  .host c.procedure c.input c.output c.before c.after

namespace HostRegistry

variable {m : Type → Type}

/-- The number of registrations. -/
def size (r : HostRegistry m) : Nat := r.entries.length

/-- Whether nothing is registered. -/
def isEmpty (r : HostRegistry m) : Bool := r.entries.isEmpty

/-- A number that every registration advances. -/
def generation (r : HostRegistry m) : Nat := r.entries.length

/-- Add a registration. -/
def add (r : HostRegistry m) (entry : HostEntry m) : HostRegistry m := ⟨entry :: r.entries⟩

/-- Register a converter for a pair of types. -/
def addConverter (r : HostRegistry m) (input output : TypeDescriptor) (procedure : Procedure) :
    HostRegistry m :=
  r.add (.converter input.token output.token procedure)

/-- Register a provider. -/
def addProvider (r : HostRegistry m) (provide : Provider m) : HostRegistry m :=
  r.add (.provider provide)

/-- The first registration that has a converter for exactly the pair. -/
def findExact [Monad m] (source target : TypeDescriptor) :
    List (HostEntry m) → m (Option HostConversion)
  | [] => pure none
  | .converter input output procedure :: rest =>
    if input = source.token ∧ output = target.token then pure (some { procedure, input, output })
    else findExact source target rest
  | .provider provide :: rest => do
    match ← provide source target with
    | some procedure =>
      pure (some { procedure, input := source.token, output := target.token })
    | none => findExact source target rest

/-- The implicit standard conversion that connects one type to another; nothing is spliced in
between equal types. -/
def connect? (u : Universe) (source target : TypeDescriptor) : Option Splice :=
  if source.token = target.token then some .absent else
  match classifyStandard u source target with
  | some conversion =>
    if conversion.isImplicit then some (.along source target conversion) else none
  | none => none

/-- A converter connected to the pair on both sides. -/
def connected? (u : Universe) (source target : TypeDescriptor) :
    HostEntry m → Option HostConversion
  | .provider _ => none
  | .converter input output procedure => do
    let inputType ← u.find? input
    let outputType ← u.find? output
    let before ← connect? u source inputType
    let after ← connect? u outputType target
    return { procedure, input, output, before, after }

/-- The host conversion from one type to another. -/
def resolve [Monad m] (r : HostRegistry m) (u : Universe) (source target : TypeDescriptor) :
    m (Option HostConversion) := do
  match ← findExact source target r.entries with
  | some conversion => pure (some conversion)
  | none => pure (r.entries.findSome? (connected? u source target))

end HostRegistry

end TypeConversion
