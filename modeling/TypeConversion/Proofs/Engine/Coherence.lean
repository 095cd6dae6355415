import TypeConversion.Engine
import TypeConversion.Proofs.Engine.Classified

/-!
# Coherent engines

An engine is coherent with a universe if what its caches hold of the present generation is what
would be answered without them.

* `freshConverter? config u host s t mode`: the converter of a pair of types, where nothing is
  remembered.
* `Engine.Dated`: something is remembered of a pair since a generation; it is right if that is the
  present one.
* `Engine.Coherent u e`: all that the engine remembers is dated in this sense. It stays so as the
  universe grows (`Engine.Coherent.extends`) and with each registration of the host, which outdates
  everything (`Engine.Coherent.addConverter`, `Engine.Coherent.addProvider`).
-/

namespace TypeConversion

open Universe

variable {u v : Universe} {s t : TypeDescriptor} {config : Configuration} {host : HostRegistry Id}
  {mode : OverflowMode}

/-- The converter of a pair of types in a mode, if there is one, where nothing is remembered. -/
def freshConverter? (config : Configuration) (u : Universe) (host : HostRegistry Id)
    (s t : TypeDescriptor) (mode : OverflowMode) : Option Converter :=
  (classified config u host s t).plan?.map fun plan => Converter.ofPlan u plan mode

/-- The converter of a pair stays the same as the universe grows, while no operator is declared. -/
theorem freshConverter?_extends (hu : u.WellFormed) (le : u.Extends v)
    (same : v.operators = u.operators) (h : host.Over u) (hs : s ∈ u) (ht : t ∈ u) :
    freshConverter? config v host s t mode = freshConverter? config u host s t mode := by
  rw [freshConverter?, freshConverter?, classified_extends hu le same h hs ht]
  cases found : classified config u host s t with
  | convertible plan =>
    exact congrArg some (ofPlan_extends hu.toLayered le hs ht found mode)
  | noConversion => rfl
  | ambiguous candidates => rfl

/-- What a right entry of a pair holds: its classification and converters built from that. -/
structure CacheEntry.Holds (config : Configuration) (u : Universe) (host : HostRegistry Id)
    (s t : TypeDescriptor) (entry : CacheEntry) : Prop where
  classification : entry.classification = classified config u host s t
  built : ∀ mode c, entry.built? mode = some c → freshConverter? config u host s t mode = some c

namespace CacheEntry

variable {entry : CacheEntry}

theorem holds_classified (config : Configuration) (u : Universe) (host : HostRegistry Id)
    (s t : TypeDescriptor) (generation : Nat) :
    Holds config u host s t { generation, classification := classified config u host s t } := by
  refine ⟨rfl, fun mode c h => ?_⟩
  cases mode <;> cases h

theorem Holds.withBuilt {c : Converter} (h : entry.Holds config u host s t)
    (hc : freshConverter? config u host s t mode = some c) :
    (entry.withBuilt c mode).Holds config u host s t := by
  have classification : (entry.withBuilt c mode).classification = entry.classification := by
    cases mode <;> rfl
  refine ⟨classification.trans h.classification, fun other d hd => ?_⟩
  by_cases same : other = mode
  · subst same
    have made : (entry.withBuilt c other).built? other = some c := by
      cases other <;> rfl
    rwa [← hd, made]
  · have kept : (entry.withBuilt c mode).built? other = entry.built? other := by
      cases mode <;> cases other <;> first | rfl | exact absurd rfl same
    exact h.built other d (kept ▸ hd)

theorem withBuilt_generation (entry : CacheEntry) (c : Converter) (mode : OverflowMode) :
    (entry.withBuilt c mode).generation = entry.generation := by
  cases mode <;> rfl

theorem Holds.extends (hu : u.WellFormed) (le : u.Extends v)
    (same : v.operators = u.operators) (own : host.Over u) (hs : s ∈ u) (ht : t ∈ u)
    (h : entry.Holds config u host s t) : entry.Holds config v host s t where
  classification := by
    rw [classified_extends hu le same own hs ht, h.classification]
  built mode c hc := by
    rw [freshConverter?_extends hu le same own hs ht, h.built mode c hc]

end CacheEntry

namespace Engine

variable {e e' : Engine Id} {pair : PairKey} {since : Nat}
  {P Q : TypeDescriptor → TypeDescriptor → Prop}

/-! ## What is remembered since a generation -/

/-- What is remembered of a pair since a generation is right, as `P` says it, if that generation is
the present one. -/
def Dated (e : Engine Id) (u : Universe) (pair : PairKey) (since : Nat)
    (P : TypeDescriptor → TypeDescriptor → Prop) : Prop :=
  since ≤ e.generation u ∧ ∃ s ∈ u, ∃ t ∈ u, key s t = pair ∧ (since = e.generation u → P s t)

theorem dated_present (hs : s ∈ u) (ht : t ∈ u) (h : P s t) :
    e.Dated u (key s t) (e.generation u) P :=
  ⟨Nat.le_refl _, s, hs, t, ht, rfl, fun _ => h⟩

/-- What answers a request is of the present generation, so it is right. -/
theorem Dated.present (h : e.Dated u (key s t) since P) (hs : s ∈ u) (ht : t ∈ u)
    (answers : e.generation u ≤ since) : since = e.generation u ∧ P s t := by
  obtain ⟨old, a, ha, b, hb, same, right⟩ := h
  have now : since = e.generation u := Nat.le_antisymm old answers
  obtain ⟨first, second⟩ := Prod.mk.inj same
  rw [eq_of_token_eq hs ha first.symm, eq_of_token_eq ht hb second.symm]
  exact ⟨now, right now⟩

/-- The universe grows: either the generation advances or no operator was declared. -/
theorem Dated.extends (hu : u.WellFormed) (hv : v.WellFormed) (le : u.Extends v)
    (h : e.Dated u pair since P)
    (keep : v.operators = u.operators → ∀ s ∈ u, ∀ t ∈ u, P s t → Q s t) :
    e.Dated v pair since Q := by
  obtain ⟨old, s, hs, t, ht, same, right⟩ := h
  have grown := operatorGeneration_le hu.toNumbered hv.toNumbered le
  simp only [Dated, generation] at old right ⊢
  refine ⟨by omega, s, le.mem s hs, t, le.mem t ht, same, fun now => ?_⟩
  have none : v.operatorGeneration = u.operatorGeneration := by omega
  have operators := operators_eq_of_generation_eq hu.toNumbered hv.toNumbered le none
  exact keep operators s hs t ht (right (by omega))

/-- An advance of the generation outdates what is remembered. -/
theorem Dated.outdate (h : e.Dated u pair since P) (later : e.generation u < e'.generation u) :
    e'.Dated u pair since Q := by
  obtain ⟨old, s, hs, t, ht, same, -⟩ := h
  exact ⟨by omega, s, hs, t, ht, same, fun now => by omega⟩

/-! ## Coherence -/

/-- All that the engine remembers of the present generation is right. -/
structure Coherent (u : Universe) (e : Engine Id) : Prop where
  operators : e.operators.Coherent u
  host : e.host.Over u
  entries : ∀ pair entry, e.cache.find? pair = some entry →
    e.Dated u pair entry.generation fun s t => entry.Holds e.config u e.host s t
  natives : ∀ pair ends since c, e.natives.entries.lookup (pair, ends) = some (since, c) →
    e.Dated u pair since fun s t =>
      freshConverter? e.config u e.host s t e.config.overflow = some c

/-- An engine that remembers nothing is coherent. -/
theorem coherent_new (h : host.Over u) : Coherent u { config, host } where
  operators := OperatorCache.coherent_empty u
  host := h
  entries _ _ h := nomatch h
  natives _ _ _ _ h := nomatch h

theorem Coherent.clearCaches (h : e.Coherent u) : e.clearCaches.Coherent u :=
  coherent_new h.host

/-- **An engine stays coherent as the universe grows.** -/
theorem Coherent.extends (hu : u.WellFormed) (hv : v.WellFormed) (le : u.Extends v)
    (h : e.Coherent u) : e.Coherent v where
  operators := h.operators.extends hu hv le
  host := h.host.mono le
  entries pair entry found :=
    (h.entries pair entry found).extends hu hv le fun same _ hs _ ht holds =>
      holds.extends hu le same h.host hs ht
  natives pair ends since c found :=
    (h.natives pair ends since c found).extends hu hv le fun same _ hs _ ht right =>
      (freshConverter?_extends hu le same h.host hs ht).trans right

/-- A registration leaves an engine coherent, since it outdates all that is remembered. -/
theorem Coherent.register {entry : HostEntry Id} (h : e.Coherent u)
    (own : (e.host.add entry).Over u) : Coherent u { e with host := e.host.add entry } := by
  have later : e.generation u < Engine.generation { e with host := e.host.add entry } u := by
    simp only [generation, HostRegistry.generation, HostRegistry.add, List.length_cons]
    omega
  exact {
    operators := h.operators
    host := own
    entries := fun pair entry found => (h.entries pair entry found).outdate later
    natives := fun pair ends since c found => (h.natives pair ends since c found).outdate later }

theorem Coherent.addConverter {input output : TypeDescriptor} (hi : input ∈ u) (ho : output ∈ u)
    (procedure : Procedure) (h : e.Coherent u) :
    (e.addConverter input output procedure).Coherent u := by
  refine h.register fun a b p mem => ?_
  rcases List.mem_cons.mp mem with same | mem
  · cases same
    exact ⟨⟨input, hi, rfl⟩, output, ho, rfl⟩
  · exact h.host a b p mem

theorem Coherent.addProvider (provide : Provider Id) (h : e.Coherent u) :
    (e.addProvider provide).Coherent u := by
  refine h.register fun a b p mem => ?_
  rcases List.mem_cons.mp mem with same | mem
  · cases same
  · exact h.host a b p mem

end Engine

end TypeConversion
