import TypeConversion.Proofs.Engine.Classified
import TypeConversion.Proofs.UserDefined.Resolution
import Mathlib.Logic.Relation

/-!
# Classification in a growing setting

A setting is a universe with the registrations of a host. It grows by the operations on universes
and by registrations.

* `Candidate.Applies.mono`: an operator that applies to a request keeps applying.
* `HostRegistry.resolve_ne_none_iff`: the host has a conversion for a pair if one of its
  registrations does, so registrations only add conversions.
* `Setting.Grows` is what a step of growth preserves (`Setting.Step.grows`), and so what a run
  does (`Setting.grows_of_run`).
* `Setting.classification_stable`: standard conversions never change, registrations touch only the
  pairs without a conversion and those converted by the host, and what has an answer keeps having
  one.
-/

namespace TypeConversion

open Universe

variable {u v : Universe} {s t : TypeDescriptor} {config : Configuration} {host : HostRegistry Id}

/-! ## Operators -/

theorem Universe.Sees.mono (le : u.Extends v) {o : Operator} (h : u.Sees s o) : v.Sees s o := by
  obtain ⟨ho, declared⟩ := h
  refine ⟨le.operators.subset ho, declared.imp_right ?_⟩
  rintro ⟨b, derives, same⟩
  exact ⟨b, derives.mono le.mem, same⟩

/-- **An operator that applies to a request keeps applying** as the universe grows. -/
theorem Candidate.Applies.mono (hu : u.Built) (hv : v.Built) (le : u.Extends v) (hs : s ∈ u)
    (ht : t ∈ u) {c : Candidate} (h : c.Applies u s t) : c.Applies v s t := by
  have layered := hu.wellFormed.toLayered
  have declared := h.declared
  obtain ⟨-, fits⟩ := (Candidate.applies_iff hu hs ht).mp h
  have same := ofOperator?_extends hu.wellFormed le hs ht h.operator_mem
  refine (Candidate.applies_iff hv (le.mem s hs) (le.mem t ht)).mpr ⟨?_, ?_⟩
  · rw [mem_operatorPool_iff hv (le.mem s hs) (le.mem t ht), unwrapOptional_extends layered le hs,
      unwrapOptional_extends layered le ht]
    exact declared.imp (Sees.mono le) (Sees.mono le)
  · exact (Candidate.ofOperator?_eq_some.mp
      (same.trans (Candidate.ofOperator?_eq_some.mpr ⟨rfl, fits⟩))).2

theorem resolveUserDefined_ne_notFound (hu : u.Built) (hv : v.Built) (le : u.Extends v)
    (hs : s ∈ u) (ht : t ∈ u) (h : u.resolveUserDefined s t ≠ .notFound) :
    v.resolveUserDefined s t ≠ .notFound := by
  rw [ne_eq, (meets_resolveUserDefined hu hs ht).notFound_iff, not_forall] at h
  rw [ne_eq, (meets_resolveUserDefined hv (le.mem s hs) (le.mem t ht)).notFound_iff]
  obtain ⟨c, hc⟩ := h
  exact fun none => none c ((not_not.mp hc).mono hu hv le hs ht)

/-! ## The host -/

/-- The registration has a converter for exactly the pair. -/
def HostEntry.IsExact (s t : TypeDescriptor) : HostEntry Id → Prop
  | .converter input output _ => input = s.token ∧ output = t.token
  | .provider provide => ∃ p, provide s t = some p

namespace HostRegistry

theorem findExact_eq_none_iff {entries : List (HostEntry Id)} :
    findExact s t entries = none ↔ ∀ entry ∈ entries, ¬entry.IsExact s t := by
  induction entries with
  | nil => exact iff_of_true rfl fun entry h => absurd h List.not_mem_nil
  | cons entry entries ih =>
    rw [List.forall_mem_cons, ← ih]
    cases entry with
    | converter input output p =>
      rw [findExact, HostEntry.IsExact]
      split
      · rename_i exact_
        exact iff_of_false (Option.some_ne_none _) fun h => h.1 exact_
      · rename_i other
        exact ⟨fun h => ⟨other, h⟩, And.right⟩
    | provider provide =>
      rw [findExact, HostEntry.IsExact]
      cases provide s t with
      | none =>
        have noConverter : ¬∃ p, (none : Option Procedure) = some p := by simp
        exact iff_and_self.mpr fun _ => noConverter
      | some p => exact iff_of_false (Option.some_ne_none _) fun h => h.1 ⟨p, rfl⟩

/-- The host has a conversion for a pair if one of its registrations has one, for exactly the pair
or connected to it. -/
theorem resolve_ne_none_iff : host.resolve u s t ≠ none ↔
    ∃ entry ∈ host.entries, entry.IsExact s t ∨ connected? u s t entry ≠ none := by
  change (match findExact s t host.entries with
    | some conversion => some conversion
    | none => host.entries.findSome? (connected? u s t)) ≠ none ↔ _
  cases found : findExact s t host.entries with
  | none =>
    have noExact := findExact_eq_none_iff.mp found
    simp only [ne_eq, List.findSome?_eq_none_iff, not_forall]
    constructor
    · rintro ⟨entry, he, connected⟩
      exact ⟨entry, he, .inr connected⟩
    · rintro ⟨entry, he, exact_ | connected⟩
      · exact absurd exact_ (noExact entry he)
      · exact ⟨entry, he, connected⟩
  | some c =>
    refine iff_of_true (fun h => nomatch h) ?_
    by_contra none
    have noExact : findExact s t host.entries = Option.none :=
      findExact_eq_none_iff.mpr fun entry he exact_ => none ⟨entry, he, .inl exact_⟩
    cases found.symm.trans noExact

/-- A converter that is connected to a pair stays so as the universe grows. -/
theorem connected?_mono (hu : u.Layered) (le : u.Extends v) (hs : s ∈ u) (ht : t ∈ u)
    {entry : HostEntry Id} (h : connected? u s t entry ≠ none) :
    connected? v s t entry ≠ none := by
  cases entry with
  | provider provide => exact absurd rfl h
  | converter input output p =>
    obtain ⟨c, h⟩ := Option.ne_none_iff_exists'.mp h
    simp only [connected?, Option.bind_eq_bind, Option.bind_eq_some_iff, find?_eq_some_iff] at h
    obtain ⟨a, ⟨ha, rfl⟩, b, ⟨hb, rfl⟩, before, hbefore, after, hafter, -⟩ := h
    simp only [connected?, mem_iff.mp (le.mem a ha), mem_iff.mp (le.mem b hb),
      connect?_extends hu le hs ha, connect?_extends hu le hb ht, hbefore, hafter,
      Option.bind_eq_bind, Option.bind_some]
    exact Option.some_ne_none _

/-- **A conversion of the host stays one**, whatever is registered besides. -/
theorem resolve_mono (hu : u.Layered) (le : u.Extends v) (hs : s ∈ u) (ht : t ∈ u)
    {host' : HostRegistry Id} (more : host.entries ⊆ host'.entries)
    (h : host.resolve u s t ≠ none) : host'.resolve v s t ≠ none := by
  obtain ⟨entry, he, found⟩ := resolve_ne_none_iff.mp h
  exact resolve_ne_none_iff.mpr
    ⟨entry, more he, found.imp_right (connected?_mono hu le hs ht)⟩

end HostRegistry

/-! ## Classification -/

theorem hostConfigured_eq_none_iff : hostConfigured config u host s t = none ↔
    (config.hostConverters = true → host.resolve u s t = none) := by
  rw [hostConfigured]
  cases config.hostConverters with
  | true => simp
  | false => exact iff_of_true rfl fun h => absurd h Bool.false_ne_true

/-- There is no conversion if no part of the search finds one. -/
theorem classified_eq_noConversion_iff : classified config u host s t = .noConversion ↔
    classifyStandard u s t = none ∧
      (config.userDefined = true → u.resolveUserDefined s t = .notFound) ∧
      (config.hostConverters = true → host.resolve u s t = none) := by
  rw [← hostConfigured_eq_none_iff, classified]
  cases classifyStandard u s t with
  | some conversion => simp
  | none =>
    have ofHost : Classification.ofHost s t (hostConfigured config u host s t) = .noConversion ↔
        hostConfigured config u host s t = none := by
      cases hostConfigured config u host s t <;> simp [Classification.ofHost]
    cases config.userDefined with
    | false => simpa using ofHost
    | true => cases u.resolveUserDefined s t <;> simp [ofHost]

/-- What the host has registered counts only where nothing else is found. -/
theorem classified_host (config : Configuration) (u : Universe) (host : HostRegistry Id)
    (s t : TypeDescriptor) :
    (classified config u host s t = .noConversion
        ∨ (classified config u host s t).category? = some .host)
      ∨ ∀ host', classified config u host' s t = classified config u host s t := by
  simp only [classified]
  split
  · exact .inr fun _ => rfl
  split
  · exact .inr fun _ => rfl
  · exact .inr fun _ => rfl
  · cases hostConfigured config u host s t with
    | none => exact .inl (.inl rfl)
    | some c => exact .inl (.inr rfl)

/-- **A pair with an answer keeps having one**. -/
theorem classified_ne_noConversion (hu : u.Built) (hv : v.Built) (le : u.Extends v) (hs : s ∈ u)
    (ht : t ∈ u) {host' : HostRegistry Id} (more : host.entries ⊆ host'.entries)
    (h : classified config u host s t ≠ .noConversion) :
    classified config v host' s t ≠ .noConversion := by
  have layered := hu.wellFormed.toLayered
  -- where the grown search finds nothing in any of its parts, the search before did not either
  refine fun none => h ?_
  obtain ⟨standard, user, registered⟩ := classified_eq_noConversion_iff.mp none
  refine classified_eq_noConversion_iff.mpr ⟨?_, fun config => ?_, fun config => ?_⟩
  · rwa [classifyStandard_extends layered le hs ht] at standard
  · by_contra found
    exact resolveUserDefined_ne_notFound hu hv le hs ht found (user config)
  · by_contra found
    exact HostRegistry.resolve_mono layered le hs ht more found (registered config)

/-! ## Settings -/

/-- What classifications depend on: a universe and the registrations of a host. -/
structure Setting where
  types : Universe
  host : HostRegistry Id

namespace Setting

variable {σ τ υ : Setting} {x y : Classification}

/-- The setting with one registration more. -/
def register (σ : Setting) (entry : HostEntry Id) : Setting :=
  { σ with host := σ.host.add entry }

/-- One step of growth. -/
inductive Step (σ : Setting) : Setting → Prop
  | grow {v : Universe} (step : σ.types.Step v) (rows : v.WithinRows) :
      Step σ { σ with types := v }
  | register (entry : HostEntry Id) : Step σ (σ.register entry)

/-- Classifying a pair in the setting, by way of a cache of operators that a run leads to, gives the
classification. -/
def Answers (σ : Setting) (config : Configuration) (s t : TypeDescriptor) (x : Classification) :
    Prop :=
  ∃ operators operators' : OperatorCache, operators.Reached σ.types ∧
    classify config σ.types operators σ.host s t = (x, operators')

theorem Answers.eq (h : σ.Answers config s t x) (hs : s ∈ σ.types) (ht : t ∈ σ.types) :
    x = classified config σ.types σ.host s t := by
  obtain ⟨operators, operators', run, answer⟩ := h
  obtain ⟨built, coherent⟩ := run.coherent
  obtain ⟨_, -, same⟩ :=
    classify_eq config σ.host built.wellFormed.toLayered coherent hs ht
  exact congrArg Prod.fst (answer.symm.trans same)

/-- The second setting has grown from the first. -/
structure Grows (σ τ : Setting) : Prop where
  built : τ.types.Built
  types : σ.types.Extends τ.types
  entries : σ.host.entries ⊆ τ.host.entries

theorem Grows.trans (h : σ.Grows τ) (h' : τ.Grows υ) : σ.Grows υ :=
  ⟨h'.built, h.types.trans h'.types, List.Subset.trans h.entries h'.entries⟩

/-- A step of growth keeps the types, the operators and the registrations that there are. -/
theorem Step.grows (h : σ.Step τ) (built : σ.types.Built) : σ.Grows τ := by
  cases h with
  | grow step rows =>
    exact ⟨.step built step rows, (built.wellFormed.step step rows).2, List.Subset.refl _⟩
  | register entry => exact ⟨built, .refl _, List.subset_cons_self _ _⟩

/-- So does a run, by induction on its steps. -/
theorem grows_of_run (built : σ.types.Built) (run : Relation.ReflTransGen Step σ τ) :
    σ.Grows τ := by
  induction run with
  | refl => exact ⟨built, .refl _, List.Subset.refl _⟩
  | tail _ step ih => exact ih.trans (step.grows ih.built)

/-- **Classification is stable under growth.** Over a run of any length, the standard conversion of
a pair never changes, a registration changes the classification of the pair only where it was that
there is no conversion or one of the host, and a pair with a conversion or with an ambiguous one
never comes to have none. -/
theorem classification_stable (built : σ.types.Built) (run : Relation.ReflTransGen Step σ τ)
    (hs : s ∈ σ.types) (ht : t ∈ σ.types) (config : Configuration) :
    classifyStandard τ.types s t = classifyStandard σ.types s t ∧
      (∀ entry x y, τ.Answers config s t x → (τ.register entry).Answers config s t y → y ≠ x →
        x = .noConversion ∨ x.category? = some .host) ∧
      ∀ x y, σ.Answers config s t x → τ.Answers config s t y → x ≠ .noConversion →
        y ≠ .noConversion := by
  have grows := grows_of_run built run
  have hs' := grows.types.mem s hs
  have ht' := grows.types.mem t ht
  refine ⟨?_, fun entry x y answer answer' other => ?_, fun x y answer answer' found => ?_⟩
  · exact classifyStandard_extends built.wellFormed.toLayered grows.types hs ht
  · obtain rfl := answer.eq hs' ht'
    obtain rfl := answer'.eq hs' ht'
    exact (classified_host config τ.types τ.host s t).resolve_right fun same => other (same _)
  · obtain rfl := answer.eq hs ht
    obtain rfl := answer'.eq hs' ht'
    exact classified_ne_noConversion built grows.built grows.types hs ht grows.entries found

/-- The host converts texts to truth values. It still does after arrays of texts have come up and a
provider has been registered that has no converter for anything. -/
theorem classification_stable_host : ∃ (σ τ : Setting) (x y : Classification),
    σ.Answers {} FrameworkType.string.descriptor FrameworkType.boolean.descriptor x ∧
      x.category? = some .host ∧
      τ.Answers {} FrameworkType.string.descriptor FrameworkType.boolean.descriptor y ∧
      y ≠ .noConversion := by
  let s := FrameworkType.string.descriptor
  let t := FrameworkType.boolean.descriptor
  let σ : Setting :=
    ⟨.initial, ({} : HostRegistry Id).addConverter s t fun _ => .ok (.bool true)⟩
  obtain ⟨texts, v, made⟩ : ∃ texts v, Universe.initial.arrayOf s 1 = .ok (texts, v) :=
    ⟨_, _, rfl⟩
  have step : Universe.initial.Step v := .arrayOf (by decide) made
  have rows : v.WithinRows := by cases made; constructor <;> decide
  let τ : Setting := Setting.register ⟨v, σ.host⟩ (.provider fun _ _ => none)
  have run : Relation.ReflTransGen Step σ τ :=
    .tail (.single (Step.grow (σ := σ) step rows)) (.register _)
  have stable := classification_stable .initial run (wellFormed_initial.framework .string)
    (wellFormed_initial.framework .boolean) {}
  obtain ⟨x, operators, answer, category⟩ : ∃ x operators,
      classify {} σ.types {} σ.host s t = (x, operators) ∧ x.category? = some .host :=
    ⟨_, _, rfl, by decide +kernel⟩
  have answers : σ.Answers {} s t x := ⟨_, _, .fresh .initial, answer⟩
  have answers' : τ.Answers {} s t (classify {} τ.types {} τ.host s t).1 :=
    ⟨_, _, .fresh (.step .initial step rows), rfl⟩
  refine ⟨σ, τ, x, _, answers, category, answers', stable.2.2 x _ answers answers' ?_⟩
  rintro rfl
  cases category

end Setting

end TypeConversion
