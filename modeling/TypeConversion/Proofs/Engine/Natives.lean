import TypeConversion.Proofs.Engine.Queries

/-!
# Requests for native types

The types in a universe of native values may have to be constructed, so a request for a converter
between native types can make the universe grow. How it grows does not depend on what is remembered.

* `NativeType.descriptor_grows`: the descriptor of a native type belongs to the universe that asking
  for it leads to, which is a built one.
* `Engine.Coherent.nativeConverter`: what a coherent engine answers.
-/

namespace TypeConversion

open Universe

variable {u v : Universe} {s t : TypeDescriptor}

/-- Asking for a descriptor takes rows and gives none back. -/
theorem NativeType.withinRows_of_descriptor (n : NativeType)
    (rows : (n.descriptor u).2.WithinRows) : u.WithinRows := by
  induction n with
  | number | bool | character | string | value => exact rows
  | option inner ih =>
    rw [descriptor] at rows
    revert ih rows
    rcases inner.descriptor u with ⟨error | t, w⟩
    · exact fun ih rows => ih rows
    · simp only
      split
      · cases made : w.optionalOf t with
        | error error => exact fun ih rows => ih rows
        | ok result => exact fun ih rows => ih (withinRows_of_optionalOf made rows)
      · exact fun ih rows => ih rows

/-- **Asking for the descriptor of a native type** leads to a built universe that has the
descriptor. -/
theorem NativeType.descriptor_grows (hu : u.Built) (n : NativeType)
    (rows : (n.descriptor u).2.WithinRows) :
    (n.descriptor u).2.Built ∧ u.Extends (n.descriptor u).2
      ∧ ∀ t, (n.descriptor u).1 = .ok t → t ∈ (n.descriptor u).2 := by
  have builtin {t : TypeDescriptor} (ht : t ∈ u) : u.Built ∧ u.Extends u ∧
      ∀ t', (Except.ok t : Except Error TypeDescriptor) = .ok t' → t' ∈ u := by
    refine ⟨hu, .refl u, ?_⟩
    rintro t' ⟨⟩
    exact ht
  have layered := hu.wellFormed.toLayered
  induction n with
  | number kind => exact builtin (layered.numeric kind)
  | bool => exact builtin (layered.framework .boolean)
  | character => exact builtin (layered.numeric _)
  | string => exact builtin (layered.framework .string)
  | value => exact builtin (layered.framework .object)
  | option inner ih =>
    rw [descriptor] at rows ⊢
    revert ih rows
    rcases inner.descriptor u with ⟨error | t, w⟩
    · exact fun ih rows => ih rows
    · simp only
      split
      · cases made : w.optionalOf t with
        | error error =>
          intro ih rows
          obtain ⟨built, le, -⟩ := ih rows
          exact ⟨built, le, fun _ h => nomatch h⟩
        | ok result =>
          obtain ⟨t', v⟩ := result
          intro ih rows
          obtain ⟨built, le, known⟩ := ih (withinRows_of_optionalOf made rows)
          have step : w.Step v := .optionalOf (known t rfl) made
          refine ⟨.step built step rows, le.trans (built.wellFormed.step step rows).2, ?_⟩
          rintro t'' ⟨⟩
          exact mem_of_optionalOf made
      · exact fun ih rows => ih rows

namespace Engine

variable {e e' : Engine Id}

/-- An engine stays coherent if it remembers a converter between native types that is right now. -/
theorem Keeps.rememberNative {natives : NativeCache Converter} (h : e.Coherent u)
    (keeps : e.Keeps u e') (hs : s ∈ u) (ht : t ∈ u)
    (known : ∀ pair ends since c, natives.entries.lookup (pair, ends) = some (since, c) →
      e.natives.entries.lookup (pair, ends) = some (since, c) ∨
        (pair = key s t ∧ since = e.generation u
          ∧ freshConverter? e.config u e.host s t e.config.overflow = some c)) :
    e.Keeps u { e' with natives } := by
  obtain ⟨coherent, config, host⟩ := keeps
  refine ⟨⟨coherent.operators, coherent.host, coherent.entries, ?_⟩, config, host⟩
  intro pair ends since c found
  simp only [Dated, generation, config, host]
  rcases known pair ends since c found with old | ⟨rfl, now, right⟩
  · exact h.natives pair ends since c old
  · rw [now]
    exact dated_present hs ht right

/-- A remembered converter that answers is the one that would be built anew. -/
theorem Coherent.freshConverter?_of_current? (h : e.Coherent u) (hs : s ∈ u) (ht : t ∈ u)
    {ends : NativeType × NativeType} {c : Converter}
    (found : e.natives.current? (key s t, ends) (e.generation u) some = some c) :
    freshConverter? e.config u e.host s t e.config.overflow = some c := by
  rw [NativeCache.current?] at found
  split at found
  · rename_i since stored known
    split at found
    · cases found
      exact ((h.natives _ _ _ _ known).present hs ht ‹_›).2
    · cases found
  · cases found

theorem Coherent.converterBetween (hu : u.Layered) (h : e.Coherent u) (hs : s ∈ u) (ht : t ∈ u)
    (source target : NativeType) : ∃ e', e.converterBetween u source target s t
      = (freshConverter e.config u e.host s t e.config.overflow, e') ∧ e.Keeps u e' := by
  cases found : e.natives.current? (key s t, source, target) (e.generation u) some with
  | some c =>
    refine ⟨e, ?_, h, rfl, rfl⟩
    rw [freshConverter, h.freshConverter?_of_current? hs ht found, Engine.converterBetween,
      NativeCache.getOrBuild, found]
    rfl
  | none =>
    obtain ⟨e', answered, keeps⟩ := h.converterWith hu hs ht e.config.overflow
    rw [freshConverter] at answered ⊢
    cases fresh : freshConverter? e.config u e.host s t e.config.overflow with
    | none =>
      rw [fresh] at answered
      refine ⟨{ e' with natives := e.natives }, ?_, ?_⟩
      · simp only [Engine.converterBetween, NativeCache.getOrBuild, found, Engine.converter]
        rw [answered]
        rfl
      · exact keeps.rememberNative h hs ht fun _ _ _ _ => .inl
    | some c =>
      rw [fresh] at answered
      let natives := e.natives.store (key s t, source, target) (e.generation u) c
      refine ⟨{ e' with natives }, ?_, ?_⟩
      · simp only [Engine.converterBetween, NativeCache.getOrBuild, found, Engine.converter]
        rw [answered]
        rfl
      · refine keeps.rememberNative h hs ht fun pair ends since c' known => ?_
        simp only [natives, NativeCache.store, Table.lookup_insert] at known
        split at known
        · rename_i same
          cases same
          cases known
          exact .inr ⟨rfl, rfl, fresh⟩
        · exact .inl known

/-- The converter between two native types, or why there is none, with the universe that their
descriptors lead to, where nothing is remembered. -/
def freshNative (config : Configuration) (u : Universe) (host : HostRegistry Id)
    (source target : NativeType) : Except Error Converter × Universe :=
  match source.descriptor u with
  | (.error error, u) => (.error error, u)
  | (.ok sourceType, u) =>
    match target.descriptor u with
    | (.error error, u) => (.error error, u)
    | (.ok targetType, u) => (freshConverter config u host sourceType targetType config.overflow, u)

/-- **A converter between native types, or the refusal,** is the one of an engine that remembers
nothing, and the universe grows as it would there. -/
theorem Coherent.nativeConverter (hu : u.Built) (h : e.Coherent u) (source target : NativeType)
    (rows : (freshNative e.config u e.host source target).2.WithinRows) :
    (freshNative e.config u e.host source target).2.Built
      ∧ u.Extends (freshNative e.config u e.host source target).2
      ∧ ∃ e', e.nativeConverter u source target
          = ((freshNative e.config u e.host source target).1,
            (freshNative e.config u e.host source target).2, e')
        ∧ e.Keeps (freshNative e.config u e.host source target).2 e' := by
  have grows := source.descriptor_grows hu
  rcases first : source.descriptor u with ⟨error | s, w⟩
  · simp only [freshNative, Engine.nativeConverter, first] at rows grows ⊢
    obtain ⟨built, le, -⟩ := grows rows
    exact ⟨built, le, e, rfl, h.extends hu.wellFormed built.wellFormed le, rfl, rfl⟩
  have between : (target.descriptor w).2.WithinRows → w.WithinRows :=
    target.withinRows_of_descriptor
  have growsOn : w.Built → _ := fun built => target.descriptor_grows built
  rcases second : target.descriptor w with ⟨error | t, v⟩
  all_goals
    simp only [freshNative, Engine.nativeConverter, first, second] at rows grows between growsOn ⊢
    obtain ⟨built, le, hs⟩ := grows (between rows)
    obtain ⟨built', le', ht⟩ := growsOn built rows
    have grown := le.trans le'
    have coherent := h.extends hu.wellFormed built'.wellFormed grown
  · exact ⟨built', grown, e, rfl, coherent, rfl, rfl⟩
  · obtain ⟨e', answered, keeps⟩ := coherent.converterBetween built'.wellFormed.toLayered
      (le'.mem s (hs s rfl)) (ht t rfl) source target
    refine ⟨built', grown, e', ?_, keeps⟩
    rw [answered]
    rfl

end Engine

end TypeConversion
