import TypeConversion.Proofs.Universe.Mentions
import Mathlib.Logic.Relation

/-!
# What the types of a universe are sure to be

The queries on a universe follow bases, interfaces, elements, definitions and arguments from type to
type. None of them checks what it finds: they rely on what holds of every built universe.

* `Universe.GrowsInto u v`: steps lead from `u` to `v` while no table is exhausted.
* `Universe.Mentions u t s`: the type `t` mentions the type `s`. The rank falls along mentions, so
  no chain of them leads back (`Layered.not_mentions_self`).
* `Universe.Represents`: the invariant, field by field.
* `registered_types_represented`: it holds of every built universe, and a token that stands for a
  type stands for it ever after.
-/

namespace TypeConversion.Universe

variable {u v : Universe} {s t : TypeDescriptor}

/-! ## Runs -/

/-- The universes that steps lead to while no table of tokens is exhausted. -/
abbrev GrowsInto : Universe → Universe → Prop :=
  Relation.ReflTransGen fun u v => u.Step v ∧ v.WithinRows

/-- A run keeps a universe built and all its types, by induction on its steps. -/
theorem GrowsInto.extends (run : u.GrowsInto v) (built : u.Built) : v.Built ∧ u.Extends v := by
  induction run with
  | refl => exact ⟨built, .refl u⟩
  | tail _ step ih =>
    obtain ⟨built, grown⟩ := ih
    obtain ⟨step, rows⟩ := step
    exact ⟨.step built step rows, grown.trans (built.wellFormed.step step rows).2⟩

/-- What is found under a token is found under it ever after. -/
theorem Extends.find?_eq_some (le : u.Extends v) {k : Token} (h : u.find? k = some t) :
    v.find? k = some t := by
  obtain ⟨ht, rfl⟩ := mem_of_find?_eq_some h
  exact le.mem t ht

/-! ## Mentions -/

/-- One type mentions another. -/
structure Mentions (u : Universe) (t s : TypeDescriptor) : Prop where
  known : s ∈ u
  mentioned : s.token ∈ t.mentions

/-- The rank falls along a chain of mentions. -/
theorem IsRank.lt_of_mentions {rank : Token → Nat} (hr : u.IsRank rank) (ht : t ∈ u)
    (h : Relation.TransGen u.Mentions t s) : s ∈ u ∧ rank s.token < rank t.token := by
  induction h with
  | single h => exact ⟨h.known, hr.falls t ht _ h.mentioned⟩
  | tail _ h ih => exact ⟨h.known, (hr.falls _ ih.1 _ h.mentioned).trans ih.2⟩

/-- No chain of mentions leads back to its start. -/
theorem Layered.not_mentions_self (hu : u.Layered) (ht : t ∈ u) :
    ¬Relation.TransGen u.Mentions t t := by
  obtain ⟨rank, hr⟩ := hu.ranked
  exact fun h => Nat.lt_irrefl _ (hr.lt_of_mentions ht h).2

/-! ## Generic instances -/

/-- A type that is made of a definition is no definition itself. -/
theorem Layered.not_isGenericDefinition (hu : u.Layered) (ht : t ∈ u) {k : Token}
    (h : t.genericDefinition = some k) : t.isGenericDefinition = false := by
  by_contra isDefinition
  obtain ⟨-, plain⟩ := (hu.shaped t ht).definition (eq_true_of_ne_false isDefinition)
  rw [h] at plain
  cases plain

/-- Every generic instance, an optional like any other, has a definition and its arguments. -/
theorem Layered.exists_genericDefinition (hu : u.Layered) (ht : t ∈ u) {k : Token}
    (h : t.genericDefinition = some k) : ∃ d ∈ u, d.token = k ∧ d.isGenericDefinition = true ∧
      t.genericArguments.length = d.genericParameters.length := by
  cases plain : t.isOptional with
  | false =>
    obtain ⟨d, found, inst⟩ := hu.exists_definition ht h plain
    obtain ⟨hd, token⟩ := mem_of_find?_eq_some found
    exact ⟨d, hd, token, inst.isDefinition, inst.count⟩
  | true =>
    obtain ⟨inner, -, -, optional⟩ := hu.exists_content ht plain
    refine ⟨_, hu.framework .nullable, ?_, rfl, ?_⟩
    · exact Option.some.inj (optional.definition.symm.trans h)
    · rw [optional.arguments]
      rfl

/-! ## The invariant -/

/-- What the queries on a universe rely on. -/
structure Represents (u : Universe) : Prop where
  mentioned : ∀ t ∈ u, ∀ k ∈ t.mentions, ∃ s ∈ u, s.token = k
  acyclic : ∀ t ∈ u, ¬Relation.TransGen u.Mentions t t
  base : ∀ t ∈ u, ∀ s ∈ u, t.base = some s.token → s.isInterface = false ∧ s.isSealed = false
  listed : ∀ t ∈ u, ∀ s ∈ u, s.token ∈ t.interfaces → s.isInterface = true
  optional : ∀ t ∈ u, t.isOptional = true →
    ∃ inner ∈ u, t.element = some inner.token ∧ inner.isValueType = true ∧ inner.isOptional = false
  array : ∀ t ∈ u, ∀ rank, t.kind = .array rank →
    1 ≤ rank ∧ ∃ element ∈ u, t.element = some element.token
  generic : ∀ t ∈ u, ∀ k, t.genericDefinition = some k →
    t.isGenericDefinition = false ∧ ∃ d ∈ u, d.token = k ∧ d.isGenericDefinition = true ∧
      t.genericArguments.length = d.genericParameters.length

theorem Layered.represents (hu : u.Layered) : u.Represents where
  mentioned t ht := (hu.shaped t ht).mentioned
  acyclic _ ht := hu.not_mentions_self ht
  base t ht s hs h := by
    obtain ⟨b, hb, token, isOpen⟩ := (hu.shaped t ht).base_open _ h
    rwa [eq_of_token_eq hs hb token.symm]
  listed t ht s hs h := by
    obtain ⟨i, hi, token, isInterface⟩ := (hu.shaped t ht).listed _ h
    rwa [eq_of_token_eq hs hi token.symm]
  optional t ht h := by
    obtain ⟨inner, hi, optional⟩ := (hu.shaped t ht).optional h
    exact ⟨inner, hi, optional.element, optional.value, optional.plain⟩
  array t ht rank h := by
    obtain ⟨e, he, array⟩ := (hu.shaped t ht).array rank h
    exact ⟨array.positive, e, he, array.element⟩
  generic _ ht _ h := ⟨hu.not_isGenericDefinition ht h, hu.exists_genericDefinition ht h⟩

/-- **The representation invariant of built universes**: the types of a built universe mention types
of it in the roles that those can have, without going round in circles, and a token that stands for
a type stands for it ever after. -/
theorem registered_types_represented (built : u.Built) :
    u.Represents ∧ ∀ v, u.GrowsInto v → ∀ k t, u.find? k = some t → v.find? k = some t :=
  ⟨built.wellFormed.toLayered.represents, fun _ run _ _ found =>
    (run.extends built).2.find?_eq_some found⟩

/-- The arrays of optional numbers come up after the optional, which they mention, and the optional
is still found. -/
theorem registered_types_represented_array : ∃ (u v : Universe) (optional array : TypeDescriptor),
    u.Built ∧ u.GrowsInto v ∧ optional.isOptional = true ∧ array.kind = .array 2 ∧
      v.Mentions array optional ∧ u.find? optional.token = some optional ∧
      v.find? optional.token = some optional ∧ v.Represents := by
  obtain ⟨optional, u, ofNumbers⟩ : ∃ t v,
      initial.optionalOf (NumericKind.integer .int32).descriptor = .ok (t, v) := ⟨_, _, rfl⟩
  have built : u.Built := by
    refine .step .initial (.optionalOf (by decide) ofNumbers) ?_
    cases ofNumbers
    constructor <;> decide
  have known : optional ∈ u := mem_of_optionalOf ofNumbers
  obtain ⟨array, v, ofOptionals⟩ : ∃ t v, u.arrayOf optional 2 = .ok (t, v) := by
    cases ofNumbers
    exact ⟨_, _, rfl⟩
  have rows : v.WithinRows := by
    cases ofNumbers
    cases ofOptionals
    constructor <;> decide
  have step : u.Step v := .arrayOf known ofOptionals
  have kept := (registered_types_represented built).2 v (.single ⟨step, rows⟩) _ _ known
  have represents := (registered_types_represented (.step built step rows)).1
  refine ⟨u, v, optional, array, built, .single ⟨step, rows⟩, ?_, ?_, ⟨kept, ?_⟩, known, kept,
    represents⟩
  all_goals
    cases ofNumbers
    cases ofOptionals
    decide

end TypeConversion.Universe
