import TypeConversion.Universe.Hierarchy
import TypeConversion.Proofs.Universe.Preservation
import Mathlib.Data.List.Basic

/-!
# What a type mentions

The types that are found under the tokens that a type of a well-formed universe mentions: its
element, the type inside an optional, its generic arguments and, for a framework type, itself.

Each of them is found, has a lower rank, and stays the same as the universe grows.
-/

namespace TypeConversion

namespace FrameworkType

theorem mem_all (f : FrameworkType) : f ∈ all := List.mem_of_getElem? (all_getElem_index f)

theorem token_injective {f g : FrameworkType} (h : f.token = g.token) : f = g := by
  have small : ∀ f : FrameworkType, f.index + 1 < 2 ^ 24 := by
    intro f
    cases f <;> decide
  have rows := (Token.ofParts_inj (by decide) (by decide) (small f) (small g) h).2
  have index : f.index = g.index := Nat.succ_inj.mp rows
  have same := all_getElem_index f
  rw [index, all_getElem_index g] at same
  exact (Option.some.inj same).symm

theorem ofToken?_eq_some {f : FrameworkType} {k : Token} : ofToken? k = some f ↔ k = f.token := by
  have found : ∀ {g}, ofToken? k = some g → g.token = k := fun h => by simpa using List.find?_some h
  refine ⟨fun h => (found h).symm, ?_⟩
  rintro rfl
  cases h : ofToken? f.token with
  | none => simpa using List.find?_eq_none.mp h f (mem_all f)
  | some g => rw [token_injective (found h)]

end FrameworkType

namespace Universe

variable {u v : Universe} {a s t e : TypeDescriptor} {k : Token}

theorem mem_framework_iff (hu : u.Layered) (ht : t ∈ u) {f : FrameworkType} :
    t.isFramework f = true ↔ t = f.descriptor := by
  refine ⟨fun h => eq_of_token_eq ht (hu.framework f) (beq_iff_eq.mp h), ?_⟩
  rintro rfl
  exact beq_self_eq_true _

/-- A known token stands for the same type as the universe grows. -/
theorem find?_extends (le : u.Extends v) (known : ∃ s ∈ u, s.token = k) :
    v.find? k = u.find? k := by
  obtain ⟨s, hs, rfl⟩ := known
  rw [mem_iff.mp hs, mem_iff.mp (le.mem s hs)]

/-! ## Elements -/

theorem elementOf?_eq_some : u.elementOf? t = some e ↔ e ∈ u ∧ t.element = some e.token := by
  rw [elementOf?, Option.bind_eq_some_iff]
  refine ⟨?_, fun h => ⟨_, h.2, h.1⟩⟩
  rintro ⟨k, hk, he⟩
  obtain ⟨he, rfl⟩ := mem_of_find?_eq_some he
  exact ⟨he, hk⟩

theorem elementOf?_extends (hu : u.Layered) (le : u.Extends v) (ht : t ∈ u) :
    v.elementOf? t = u.elementOf? t := by
  rw [elementOf?, elementOf?]
  cases hk : t.element with
  | none => rfl
  | some k =>
    exact find?_extends le ((hu.shaped t ht).mentioned k (TypeDescriptor.mem_mentions_element hk))

theorem rank_elementOf?_lt {rank : Token → Nat} (hr : u.IsRank rank) (ht : t ∈ u)
    (h : u.elementOf? t = some e) : rank e.token < rank t.token :=
  hr.falls t ht _ (TypeDescriptor.mem_mentions_element (elementOf?_eq_some.mp h).2)

/-- An array has an element. -/
theorem Layered.exists_element (hu : u.Layered) (ht : t ∈ u) {rank : Nat}
    (h : t.kind = .array rank) : ∃ e, u.elementOf? t = some e ∧ IsArrayOf t e rank := by
  obtain ⟨e, he, array⟩ := (hu.shaped t ht).array rank h
  exact ⟨e, elementOf?_eq_some.mpr ⟨he, array.element⟩, array⟩

/-- What is inside an optional is a value type and no optional. -/
theorem Layered.exists_content (hu : u.Layered) (ht : t ∈ u) (h : t.isOptional = true) :
    ∃ e, u.elementOf? t = some e ∧ u.unwrapOptional t = e ∧ IsOptionalOf t e := by
  obtain ⟨e, he, optional⟩ := (hu.shaped t ht).optional h
  have found := elementOf?_eq_some.mpr ⟨he, optional.element⟩
  exact ⟨e, found, by simp [unwrapOptional, h, found], optional⟩

theorem unwrapOptional_of_not_optional (h : t.isOptional = false) : u.unwrapOptional t = t := by
  simp [unwrapOptional, h]

theorem unwrapOptional_mem (hu : u.Layered) (ht : t ∈ u) : u.unwrapOptional t ∈ u := by
  cases h : t.isOptional with
  | false => rwa [unwrapOptional_of_not_optional h]
  | true =>
    obtain ⟨e, found, same, -⟩ := hu.exists_content ht h
    exact same ▸ (elementOf?_eq_some.mp found).1

theorem ite_unwrapOptional_mem (hu : u.Layered) (ht : t ∈ u) (unwraps : Bool) :
    (if unwraps then u.unwrapOptional t else t) ∈ u := by
  cases unwraps with
  | true => exact unwrapOptional_mem hu ht
  | false => exact ht

theorem isOptional_unwrapOptional (hu : u.Layered) (ht : t ∈ u) :
    (u.unwrapOptional t).isOptional = false := by
  cases h : t.isOptional with
  | false => rwa [unwrapOptional_of_not_optional h]
  | true =>
    obtain ⟨e, -, same, optional⟩ := hu.exists_content ht h
    exact same ▸ optional.plain

theorem unwrapOptional_extends (hu : u.Layered) (le : u.Extends v) (ht : t ∈ u) :
    v.unwrapOptional t = u.unwrapOptional t := by
  rw [unwrapOptional, unwrapOptional, elementOf?_extends hu le ht]

/-! ## Generic arguments -/

theorem mem_genericArgumentsOf (h : a ∈ u.genericArgumentsOf t) :
    a ∈ u ∧ a.token ∈ t.genericArguments := by
  obtain ⟨k, hk, found⟩ := List.mem_filterMap.mp h
  obtain ⟨ha, rfl⟩ := mem_of_find?_eq_some found
  exact ⟨ha, hk⟩

theorem rank_genericArgument_lt {rank : Token → Nat} (hr : u.IsRank rank) (ht : t ∈ u)
    (h : a ∈ u.genericArgumentsOf t) : rank a.token < rank t.token :=
  hr.falls t ht _ (TypeDescriptor.mem_mentions_genericArguments (mem_genericArgumentsOf h).2)

/-- Every argument of a type is found. -/
theorem map_token_genericArgumentsOf (hu : u.Layered) (ht : t ∈ u) :
    (u.genericArgumentsOf t).map TypeDescriptor.token = t.genericArguments := by
  have known : ∀ k ∈ t.genericArguments, ∃ s ∈ u, s.token = k := fun k hk =>
    (hu.shaped t ht).mentioned k (TypeDescriptor.mem_mentions_genericArguments hk)
  rw [genericArgumentsOf]
  generalize t.genericArguments = ks at known
  induction ks with
  | nil => rfl
  | cons k ks ih =>
    obtain ⟨s, hs, rfl⟩ := known k List.mem_cons_self
    rw [List.filterMap_cons_some (mem_iff.mp hs), List.map_cons,
      ih fun k hk => known k (List.mem_cons_of_mem _ hk)]

theorem length_genericArgumentsOf (hu : u.Layered) (ht : t ∈ u) :
    (u.genericArgumentsOf t).length = t.genericArguments.length := by
  rw [← map_token_genericArgumentsOf hu ht, List.length_map]

theorem genericArgumentsOf_extends (hu : u.Layered) (le : u.Extends v) (ht : t ∈ u) :
    v.genericArgumentsOf t = u.genericArgumentsOf t := by
  refine List.filterMap_congr fun k hk => find?_extends le ?_
  exact (hu.shaped t ht).mentioned k (TypeDescriptor.mem_mentions_genericArguments hk)

/-- A generic instance other than an optional is an instance of a known definition. -/
theorem Layered.exists_definition (hu : u.Layered) (ht : t ∈ u) (h : t.genericDefinition = some k)
    (plain : t.isOptional = false) : ∃ d, u.find? k = some d ∧ IsInstanceOf t d := by
  obtain ⟨d, hd, inst⟩ := (hu.shaped t ht).instantiated k h plain
  have token : d.token = k := Option.some.inj (inst.token.symm.trans h)
  exact ⟨d, find?_eq_some_iff.mpr ⟨hd, token⟩, inst⟩

end Universe

end TypeConversion
