import TypeConversion.Cache

/-!
# The conversion engine

An engine answers requests for conversions over a universe that other engines may share. It holds
its configuration, the registrations of its host, and its caches.

* `Engine.classify`, `Engine.getConverter`, `Engine.converterWith` and `Engine.convert` answer for a
  pair of types; all of them go through `Engine.entry`, which asks the cache first.
* `Engine.nativeConverter` answers for a pair of native types.
* `Engine.generation` advances with every operator of the universe and every registration of the
  host, so an entry of the present generation is up to date.
-/

namespace TypeConversion

/-- The state of an engine. Providers answer in the monad `m`. -/
structure Engine (m : Type → Type) where
  config : Configuration := {}
  cache : ConverterCache := {}
  natives : NativeCache Converter := {}
  operators : OperatorCache := {}
  host : HostRegistry m := {}

namespace Engine

variable {m : Type → Type}

/-- A number that advances with every operator declared and every registration of the host. -/
def generation (e : Engine m) (u : Universe) : Nat := u.operatorGeneration + e.host.generation

/-- Register a converter of the host. -/
def addConverter (e : Engine m) (input output : TypeDescriptor) (procedure : Procedure) :
    Engine m :=
  { e with host := e.host.addConverter input output procedure }

/-- Register a provider of the host. -/
def addProvider (e : Engine m) (provide : Provider m) : Engine m :=
  { e with host := e.host.addProvider provide }

/-- The counts of the engine's cache. -/
def stats (e : Engine m) : CacheStats := e.cache.stats

/-- Forget what the caches remember. -/
def clearCaches (e : Engine m) : Engine m :=
  { e with cache := {}, natives := {}, operators := {} }

/-- The key of a pair of types. -/
def key (source target : TypeDescriptor) : PairKey := (source.token, target.token)

variable [Monad m]

/-- The cache entry of a pair of types. -/
def entry (e : Engine m) (u : Universe) (source target : TypeDescriptor) :
    m (CacheEntry × Engine m) := do
  let (entry, cache, operators) ←
    e.cache.getOrClassify (key source target) (e.generation u) e.config.cacheNegative e.operators
      fun operators => TypeConversion.classify e.config u operators e.host source target
  return (entry, { e with cache, operators })

/-- The classification of a pair of types. -/
def classify (e : Engine m) (u : Universe) (source target : TypeDescriptor) :
    m (Classification × Engine m) := do
  let (entry, e) ← e.entry u source target
  return (entry.classification, e)

/-- The converter of a pair of types in a mode, if there is one, with the entry it comes from. -/
def lookup (e : Engine m) (u : Universe) (source target : TypeDescriptor) (mode : OverflowMode) :
    m (CacheEntry × Option Converter × Engine m) := do
  let (entry, e) ← e.entry u source target
  let (built, cache) := e.cache.converter u (key source target) entry mode
  return (entry, built, { e with cache })

/-- The converter of a pair of types in the configured mode, if there is one. -/
def getConverter (e : Engine m) (u : Universe) (source target : TypeDescriptor) :
    m (Option Converter × Engine m) := do
  let (_, built, e) ← e.lookup u source target e.config.overflow
  return (built, e)

/-- Why a pair of types has no converter. -/
def refusal (source target : TypeDescriptor) : Classification → Error
  | .ambiguous candidates =>
    .ambiguous source.fullName target.fullName (candidates.map Operator.signature)
  | .convertible _ | .noConversion => .noConversion source.fullName target.fullName

/-- The converter of a pair of types in a mode, or why there is none. -/
def converterWith (e : Engine m) (u : Universe) (source target : TypeDescriptor)
    (mode : OverflowMode) : m (Except Error Converter × Engine m) := do
  let (entry, built, e) ← e.lookup u source target mode
  match built with
  | some converter => return (.ok converter, e)
  | none => return (.error (refusal source target entry.classification), e)

/-- The converter of a pair of types in the configured mode, or why there is none. -/
def converter (e : Engine m) (u : Universe) (source target : TypeDescriptor) :
    m (Except Error Converter × Engine m) :=
  e.converterWith u source target e.config.overflow

/-- Convert a value from one type to another. -/
def convert (e : Engine m) (u : Universe) (source target : TypeDescriptor) (v : Value) :
    m (Except Error Value × Engine m) := do
  let (converter, e) ← e.converter u source target
  return (converter.bind fun c => c.convert u v, e)

/-- Ask for the converters of many pairs of types, and count those that exist. -/
def warm (u : Universe) : List (TypeDescriptor × TypeDescriptor) → Engine m → m (Nat × Engine m)
  | [], e => pure (0, e)
  | (source, target) :: rest, e => do
    let (built, e) ← e.getConverter u source target
    let (count, e) ← warm u rest e
    return (count + (if built.isSome then 1 else 0), e)

/-! ## Native types -/

/-- The converter of a pair of descriptors with native ends. -/
def converterBetween (e : Engine m) (u : Universe) (source target : NativeType)
    (sourceType targetType : TypeDescriptor) : m (Except Error Converter × Engine m) := do
  let (converter, natives, e) ←
    e.natives.getOrBuild (key sourceType targetType, source, target) (e.generation u) some id e
      fun e => e.converter u sourceType targetType
  return (converter, { e with natives })

/-- The converter between two native types, whose descriptors may have to be constructed. -/
def nativeConverter (e : Engine m) (u : Universe) (source target : NativeType) :
    m (Except Error Converter × Universe × Engine m) :=
  match source.descriptor u with
  | (.error error, u) => pure (.error error, u, e)
  | (.ok sourceType, u) =>
    match target.descriptor u with
    | (.error error, u) => pure (.error error, u, e)
    | (.ok targetType, u) => do
      let (converter, e) ← e.converterBetween u source target sourceType targetType
      return (converter, u, e)

end Engine

/-- Convert a native value of one type to one of another. -/
def Converter.convertNative (c : Converter) (u : Universe) (source target : NativeType)
    (x : source.Carrier) : Except Error target.Carrier := do
  let v ← source.toValue x
  let w ← c.convert u v
  target.ofValue w

end TypeConversion
