import TypeConversion.Proofs.Engine.CacheHistory
import TypeConversion.Proofs.Engine.Coherence

/-!
# What a coherent engine answers

Each request to a coherent engine is answered as it would be if nothing were remembered, and leaves
the engine coherent, with the same configuration and registrations (`Engine.Keeps`).

* `Engine.Coherent.entry`: the entry of a pair, which the other requests go through.
* `Engine.Coherent.converterWith` and `Engine.Coherent.warm`: the converter of a pair or the
  refusal, and the number of converters of many pairs.
-/

namespace TypeConversion

open Universe

/-- The converter of a pair of types in a mode, or why there is none, where nothing is
remembered. -/
def freshConverter (config : Configuration) (u : Universe) (host : HostRegistry Id)
    (s t : TypeDescriptor) (mode : OverflowMode) : Except Error Converter :=
  match freshConverter? config u host s t mode with
  | some c => .ok c
  | none => .error (Engine.refusal s t (classified config u host s t))

namespace Engine

variable {u : Universe} {s t : TypeDescriptor} {e e' e'' : Engine Id} {mode : OverflowMode}

/-- `e'` is `e` with other caches, and they are coherent. -/
structure Keeps (u : Universe) (e e' : Engine Id) : Prop where
  coherent : e'.Coherent u
  config : e'.config = e.config
  host : e'.host = e.host

theorem Keeps.trans (h : e.Keeps u e') (h' : e'.Keeps u e'') : e.Keeps u e'' :=
  ⟨h'.coherent, h'.config.trans h.config, h'.host.trans h.host⟩

/-- An engine stays coherent if its cache forgets or if it remembers what is right now. -/
theorem Coherent.remember {cache : ConverterCache} {operators : OperatorCache} (h : e.Coherent u)
    (ho : operators.Coherent u) (hs : s ∈ u) (ht : t ∈ u)
    (known : ∀ pair entry, cache.find? pair = some entry → e.cache.find? pair = some entry ∨
      (pair = key s t ∧ entry.generation = e.generation u
        ∧ entry.Holds e.config u e.host s t)) :
    e.Keeps u { e with cache, operators } := by
  refine ⟨⟨ho, h.host, fun pair entry found => ?_, h.natives⟩, rfl, rfl⟩
  rcases known pair entry found with old | ⟨rfl, now, holds⟩
  · exact h.entries pair entry old
  · rw [now]
    exact dated_present hs ht holds

/-- **The entry that answers for a pair** is of the present generation and right. -/
theorem Coherent.entry (hu : u.Layered) (h : e.Coherent u) (hs : s ∈ u) (ht : t ∈ u) :
    ∃ entry e', e.entry u s t = (entry, e') ∧ e.Keeps u e' ∧ entry.generation = e'.generation u
      ∧ entry.Holds e'.config u e'.host s t := by
  rcases e.cache.getOrClassify_cases (key s t) (e.generation u) e.config.cacheNegative e.operators
    (fun operators => TypeConversion.classify e.config u operators e.host s t)
    with ⟨entry, found, recent, answered⟩ | ⟨-, answered⟩
  · have hit : e.entry u s t = (entry, { e with cache := e.cache.countHit }) := by
      rw [Engine.entry, answered]
      rfl
    obtain ⟨now, holds⟩ := (h.entries _ _ found).present hs ht recent
    have keeps : e.Keeps u { e with cache := e.cache.countHit } :=
      h.remember h.operators hs ht fun _ _ => .inl
    exact ⟨_, _, hit, keeps, now, holds⟩
  · obtain ⟨operators, coherent, made⟩ := classify_eq e.config e.host hu h.operators hs ht
    let fresh : CacheEntry :=
      { generation := e.generation u, classification := classified e.config u e.host s t }
    have holds : fresh.Holds e.config u e.host s t := CacheEntry.holds_classified _ _ _ _ _ _
    have miss : e.entry u s t = (fresh, { e with
        cache := e.cache.countMiss.record (key s t) e.config.cacheNegative fresh, operators }) := by
      rw [Engine.entry, answered, made]
      rfl
    refine ⟨_, _, miss, h.remember coherent hs ht fun pair entry known => ?_, rfl, holds⟩
    rw [ConverterCache.find?_record] at known
    split at known
    · rename_i kept
      cases known
      exact .inr ⟨kept.2, rfl, holds⟩
    · exact .inl known

/-- A converter that is built is the one that would be built anew, and can be remembered. -/
theorem Coherent.build {entry : CacheEntry} (h : e.Coherent u) (hs : s ∈ u) (ht : t ∈ u)
    (now : entry.generation = e.generation u) (holds : entry.Holds e.config u e.host s t)
    (mode : OverflowMode) : ∃ cache,
      e.cache.converter u (key s t) entry mode = (freshConverter? e.config u e.host s t mode, cache)
        ∧ e.Keeps u { e with cache } := by
  rw [ConverterCache.converter]
  cases known : entry.built? mode with
  | some c =>
    rw [holds.built mode c known]
    exact ⟨e.cache, rfl, h, rfl, rfl⟩
  | none =>
    have fresh : freshConverter? e.config u e.host s t mode
        = entry.classification.plan?.map fun plan => Converter.ofPlan u plan mode := by
      rw [freshConverter?, holds.classification]
    cases planned : entry.classification.plan? with
    | none =>
      rw [fresh, planned]
      exact ⟨e.cache, rfl, h, rfl, rfl⟩
    | some plan =>
      rw [planned] at fresh
      rw [fresh]
      refine ⟨_, rfl, h.remember h.operators hs ht fun pair other found => ?_⟩
      rw [ConverterCache.find?_store] at found
      split at found
      · cases found
        exact .inr ⟨‹_›, (entry.withBuilt_generation _ _).trans now, holds.withBuilt fresh⟩
      · exact .inl found

theorem Coherent.classify (hu : u.Layered) (h : e.Coherent u) (hs : s ∈ u) (ht : t ∈ u) :
    ∃ e', e.classify u s t = (classified e.config u e.host s t, e') ∧ e.Keeps u e' := by
  obtain ⟨entry, e', answered, keeps, -, holds⟩ := h.entry hu hs ht
  refine ⟨e', ?_, keeps⟩
  rw [← keeps.config, ← keeps.host, ← holds.classification, Engine.classify, answered]
  rfl

theorem Coherent.lookup (hu : u.Layered) (h : e.Coherent u) (hs : s ∈ u) (ht : t ∈ u)
    (mode : OverflowMode) : ∃ entry e',
      e.lookup u s t mode = (entry, freshConverter? e.config u e.host s t mode, e')
        ∧ e.Keeps u e' ∧ entry.classification = classified e.config u e.host s t := by
  obtain ⟨entry, e', answered, keeps, now, holds⟩ := h.entry hu hs ht
  obtain ⟨cache, built, kept⟩ := keeps.coherent.build hs ht now holds mode
  refine ⟨entry, { e' with cache }, ?_, keeps.trans kept, ?_⟩
  · rw [Engine.lookup, answered, ← keeps.config, ← keeps.host]
    change (entry, (e'.cache.converter u (key s t) entry mode).1,
      { e' with cache := (e'.cache.converter u (key s t) entry mode).2 }) = _
    rw [built]
  · rw [holds.classification, keeps.config, keeps.host]

theorem Coherent.getConverter (hu : u.Layered) (h : e.Coherent u) (hs : s ∈ u) (ht : t ∈ u) :
    ∃ e', e.getConverter u s t = (freshConverter? e.config u e.host s t e.config.overflow, e')
      ∧ e.Keeps u e' := by
  obtain ⟨entry, e', answered, keeps, -⟩ := h.lookup hu hs ht e.config.overflow
  refine ⟨e', ?_, keeps⟩
  rw [Engine.getConverter, answered]
  rfl

/-- **The converter of a pair, or the refusal,** is the one of an engine that remembers nothing. -/
theorem Coherent.converterWith (hu : u.Layered) (h : e.Coherent u) (hs : s ∈ u) (ht : t ∈ u)
    (mode : OverflowMode) :
    ∃ e', e.converterWith u s t mode = (freshConverter e.config u e.host s t mode, e')
      ∧ e.Keeps u e' := by
  obtain ⟨entry, e', answered, keeps, classification⟩ := h.lookup hu hs ht mode
  refine ⟨e', ?_, keeps⟩
  rw [Engine.converterWith, answered, freshConverter, ← classification]
  cases freshConverter? e.config u e.host s t mode <;> rfl

theorem Coherent.convert (hu : u.Layered) (h : e.Coherent u) (hs : s ∈ u) (ht : t ∈ u)
    (x : Value) : ∃ e', e.convert u s t x
      = ((freshConverter e.config u e.host s t e.config.overflow).bind fun c => c.convert u x, e')
        ∧ e.Keeps u e' := by
  obtain ⟨e', answered, keeps⟩ := h.converterWith hu hs ht e.config.overflow
  refine ⟨e', ?_, keeps⟩
  rw [Engine.convert, Engine.converter, answered]
  rfl

/-- The number of pairs of types that have a converter. -/
def freshCount (config : Configuration) (u : Universe) (host : HostRegistry Id)
    (pairs : List (TypeDescriptor × TypeDescriptor)) : Nat :=
  pairs.countP fun pair => (freshConverter? config u host pair.1 pair.2 config.overflow).isSome

/-- **Warming** leaves an engine coherent, by induction on the pairs, and counts those that have a
converter. -/
theorem Coherent.warm (hu : u.Layered) {pairs : List (TypeDescriptor × TypeDescriptor)}
    (h : e.Coherent u) (own : ∀ pair ∈ pairs, pair.1 ∈ u ∧ pair.2 ∈ u) :
    ∃ e', Engine.warm u pairs e = (freshCount e.config u e.host pairs, e') ∧ e.Keeps u e' := by
  induction pairs generalizing e with
  | nil => exact ⟨e, rfl, h, rfl, rfl⟩
  | cons pair rest ih =>
    obtain ⟨s, t⟩ := pair
    obtain ⟨⟨hs, ht⟩, own⟩ := List.forall_mem_cons.mp own
    obtain ⟨e', first, keeps⟩ := h.getConverter hu hs ht
    obtain ⟨e'', counted, kept⟩ := ih keeps.coherent own
    refine ⟨e'', ?_, keeps.trans kept⟩
    rw [Engine.warm, first]
    change ((Engine.warm u rest e').1 + _, (Engine.warm u rest e').2) = _
    rw [counted, freshCount, freshCount, List.countP_cons, keeps.config, keeps.host]

end Engine

end TypeConversion
