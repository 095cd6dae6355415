import TypeConversion.Table
import TypeConversion.Classification
import TypeConversion.Converter
import TypeConversion.Native

/-!
# Caches of conversions

A cache remembers the classification of each pair of types, with the generation at which it was
made, and the converters built from it. An entry answers requests for its own generation and older
ones.

* `ConverterCache.getOrClassify` answers from an entry or classifies, and counts hits and misses.
* `ConverterCache.converter` gives the converter of an entry, built at its first use in each mode.
* `NativeCache.getOrBuild` does the same for what is built for a pair of types with native ends.
  What is stored is of type `P`; the reader says how to look at it.
-/

namespace TypeConversion

/-- A remembered classification with the converters built from it. -/
structure CacheEntry where
  generation : Nat
  classification : Classification
  checked : Option Converter := none
  unchecked : Option Converter := none

namespace CacheEntry

/-- The converter built for a mode. -/
def built? (e : CacheEntry) : OverflowMode → Option Converter
  | .checked => e.checked
  | .unchecked => e.unchecked

/-- The entry with a converter built for a mode. -/
def withBuilt (e : CacheEntry) (converter : Converter) : OverflowMode → CacheEntry
  | .checked => { e with checked := some converter }
  | .unchecked => { e with unchecked := some converter }

end CacheEntry

/-- A pair of types. -/
abbrev PairKey := Token × Token

/-- A pair of types with the native types at their ends. -/
abbrev NativeKey := PairKey × NativeType × NativeType

/-- How often the cache answered, how often it did not, and how much it remembers. -/
structure CacheStats where
  hits : Nat
  misses : Nat
  entries : Nat
  deriving DecidableEq, Repr

/-- Remembered classifications by pair of types. -/
structure ConverterCache where
  entries : Table PairKey CacheEntry := {}
  hits : Nat := 0
  misses : Nat := 0

namespace ConverterCache

/-- The number of remembered pairs. -/
def size (c : ConverterCache) : Nat := c.entries.size

/-- Whether no pair is remembered. -/
def isEmpty (c : ConverterCache) : Bool := c.entries.isEmpty

/-- The counts of the cache. -/
def stats (c : ConverterCache) : CacheStats := ⟨c.hits, c.misses, c.size⟩

/-- What is remembered of a pair. -/
def find? (c : ConverterCache) (key : PairKey) : Option CacheEntry := c.entries.lookup key

/-- Remember an entry for a pair, in place of an older one. -/
def store (c : ConverterCache) (key : PairKey) (entry : CacheEntry) : ConverterCache :=
  { c with entries := c.entries.insert key entry }

@[simp] theorem find?_store (c : ConverterCache) (key other : PairKey) (entry : CacheEntry) :
    (c.store key entry).find? other = if other = key then some entry else c.find? other :=
  Table.lookup_insert _ _ _ _

/-- The remembered entry of a pair, if it is not older than the requested generation. -/
def current? (c : ConverterCache) (key : PairKey) (generation : Nat) : Option CacheEntry :=
  (c.find? key).filter fun entry => generation ≤ entry.generation

/-- The cache after a request that it answered. -/
def countHit (c : ConverterCache) : ConverterCache := { c with hits := c.hits + 1 }

/-- The cache after a request that it did not answer. -/
def countMiss (c : ConverterCache) : ConverterCache := { c with misses := c.misses + 1 }

/-- Remember a classification, unless it is negative and negative ones are not kept. -/
def record (c : ConverterCache) (key : PairKey) (cacheNegative : Bool) (entry : CacheEntry) :
    ConverterCache :=
  if cacheNegative || entry.classification.isConvertible then c.store key entry else c

/-- The entry of a pair at the requested generation: a remembered one, or one made by classifying,
which may change the state `s`. -/
def getOrClassify {m : Type → Type} [Monad m] {σ : Type} (c : ConverterCache) (key : PairKey)
    (generation : Nat) (cacheNegative : Bool) (s : σ) (classify : σ → m (Classification × σ)) :
    m (CacheEntry × ConverterCache × σ) :=
  match c.current? key generation with
  | some entry => pure (entry, c.countHit, s)
  | none => do
    let (classification, s) ← classify s
    let entry : CacheEntry := { generation, classification }
    return (entry, c.countMiss.record key cacheNegative entry, s)

/-- The converter of an entry in a mode, built and remembered at its first use. -/
def converter (c : ConverterCache) (u : Universe) (key : PairKey) (entry : CacheEntry)
    (mode : OverflowMode) : Option Converter × ConverterCache :=
  match entry.built? mode with
  | some built => (some built, c)
  | none =>
    match entry.classification.plan? with
    | some plan =>
      let built := Converter.ofPlan u plan mode
      (some built, c.store key (entry.withBuilt built mode))
    | none => (none, c)

end ConverterCache

/-! ## Native ends -/

/-- What was built for pairs of types with native ends, with the generation of its building. -/
structure NativeCache (P : Type) where
  entries : Table NativeKey (Nat × P) := {}

namespace NativeCache

variable {P α : Type}

/-- What is remembered for native ends, if it is not older than the requested generation and the
reader can look at it. -/
def current? (c : NativeCache P) (key : NativeKey) (generation : Nat) (view : P → Option α) :
    Option α :=
  match c.entries.lookup key with
  | some (stored, payload) => if generation ≤ stored then view payload else none
  | none => none

/-- Remember what was built for native ends, in place of what was there. -/
def store (c : NativeCache P) (key : NativeKey) (generation : Nat) (payload : P) : NativeCache P :=
  ⟨c.entries.insert key (generation, payload)⟩

/-- What is remembered for native ends, or else what is built now, which may change the state `s`
and is remembered unless it fails. -/
def getOrBuild {m : Type → Type} [Monad m] {σ : Type} (c : NativeCache P) (key : NativeKey)
    (generation : Nat) (view : P → Option α) (keep : α → P) (s : σ)
    (build : σ → m (Except Error α × σ)) : m (Except Error α × NativeCache P × σ) :=
  match c.current? key generation view with
  | some found => pure (.ok found, c, s)
  | none => do
    let (built, s) ← build s
    match built with
    | .ok made => return (.ok made, c.store key generation (keep made), s)
    | .error error => return (.error error, c, s)

end NativeCache

end TypeConversion
