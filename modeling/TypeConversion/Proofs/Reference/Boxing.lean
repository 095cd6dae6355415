import TypeConversion.Standard
import TypeConversion.Proofs.Reference.Order

/-!
# Boxing

* `Boxes u s t`: values of the type `s`, which is no optional, can be boxed as references of `t`.
* `Boxes.widen`: what boxes as one type boxes as every type that it converts to.
* `classifyStandard_eq_implicitReference_iff` and `classifyStandard_eq_box_iff`: the pairs of types
  whose standard conversion is one of references, or a box.
-/

namespace TypeConversion

open Universe Reference

variable {u : Universe} {i s t : TypeDescriptor}

/-- The reference types that values of a value type can be boxed as. -/
inductive Boxes (u : Universe) (s t : TypeDescriptor) : Prop
  | object (h : t = FrameworkType.object.descriptor)
  | valueType (h : t = FrameworkType.valueType.descriptor)
  | enum (h : t = FrameworkType.enum.descriptor) (hs : s.isEnum = true)
  | implements {i : TypeDescriptor} (ht : t.isInterface = true) (hi : i ∈ u.interfacesOf s)
      (h : i = t ∨ Varies u i t)

theorem isValueType_unwrapOptional (hu : u.Layered) (hs : s ∈ u) (value : s.isValueType = true) :
    (u.unwrapOptional s).isValueType = true := by
  cases h : s.isOptional with
  | false => rwa [unwrapOptional_of_not_optional h]
  | true =>
    obtain ⟨e, -, same, optional⟩ := hu.exists_content hs h
    rw [same]
    exact optional.value

theorem isReferenceType_of_isValueType (h : s.isValueType = true) : s.isReferenceType = false :=
  TypeKind.isReference_eq_false_of_isValue h

theorem ne_of_isValueType (hs : s.isValueType = true) (ht : t.isReferenceType = true) : s ≠ t := by
  rintro rfl
  rw [isReferenceType_of_isValueType hs] at ht
  cases ht

theorem eq_framework_of_ofToken? (hu : u.Layered) (ht : t ∈ u) {f : FrameworkType}
    (h : FrameworkType.ofToken? t.token = some f) : t = f.descriptor :=
  eq_of_token_eq ht (hu.framework f) (FrameworkType.ofToken?_eq_some.mp h)

/-- The targets of boxing are those of the content of the value type. -/
theorem isBoxingTarget_iff (hu : u.Layered) (hs : s ∈ u) (ht : t ∈ u) :
    isBoxingTarget u s t = true ↔
      s.isValueType = true ∧ t.isReferenceType = true ∧ Boxes u (u.unwrapOptional s) t := by
  rw [isBoxingTarget]
  by_cases value : s.isValueType = true
  swap
  · simp [value]
  by_cases reference : t.isReferenceType = true
  swap
  · simp [reference]
  have inner := unwrapOptional_mem hu hs
  have ne := ne_of_isValueType (isValueType_unwrapOptional hu hs value) reference
  have implemented := implementsVariant_iff hu inner ht ne
  simp only [value, reference, Bool.not_true, Bool.or_self, Bool.false_eq_true, if_false, true_and]
  refine ⟨fun h => ?_, fun h => ?_⟩
  · split at h
    · rename_i known
      exact .object (eq_framework_of_ofToken? hu ht known)
    · rename_i known
      exact .valueType (eq_framework_of_ofToken? hu ht known)
    · rename_i known
      exact .enum (eq_framework_of_ofToken? hu ht known) h
    · obtain ⟨interface, h⟩ := Bool.and_eq_true_iff.mp h
      obtain ⟨i, hi, h⟩ := implemented.mp h
      exact .implements interface hi h
  · cases h with
    | object h =>
      subst h
      rfl
    | valueType h =>
      subst h
      rfl
    | enum h isEnum =>
      subst h
      exact isEnum
    | implements interface hi h =>
      have noClass : ∀ {f : FrameworkType}, f.descriptor.isInterface = false →
          FrameworkType.ofToken? t.token ≠ some f := by
        intro f class_ known
        rw [eq_framework_of_ofToken? hu ht known, class_] at interface
        cases interface
      split
      · exact absurd ‹_› (noClass rfl)
      · exact absurd ‹_› (noClass rfl)
      · exact absurd ‹_› (noClass rfl)
      · exact Bool.and_eq_true_iff.mpr ⟨interface, implemented.mpr ⟨_, hi, h⟩⟩

/-- A type that derives from a framework type of the value types derives from one above it. -/
theorem Universe.Derives.of_framework (hu : u.Layered) {f g : FrameworkType}
    (base : f.descriptor.base = some g.token) (h : u.Derives f.descriptor t) :
    t = g.descriptor ∨ u.Derives g.descriptor t :=
  h.of_base base (hu.framework g)

/-- The base of value types derives from the universal object only. -/
theorem eq_object_of_derives (hu : u.Layered) (h : u.Derives FrameworkType.valueType.descriptor t) :
    t = FrameworkType.object.descriptor := by
  rcases h.of_framework hu (g := .object) rfl with e | h
  · exact e
  · exact absurd rfl h.base_ne_none

theorem not_mem_interfacesOf_valueType (hu : u.Layered) :
    i ∉ u.interfacesOf FrameworkType.valueType.descriptor := by
  intro hi
  have hi := mem_interfacesOf_iff.mp hi
  have nothing : ∀ k, k ∉ u.listedInterfaces FrameworkType.valueType.descriptor := by
    intro k hk
    rcases (mem_listedInterfaces_iff hu (hu.framework .valueType)).mp hk with hk | ⟨b, hb, hk⟩
    · cases hk
    · rw [eq_object_of_derives hu hb] at hk
      cases hk
  cases hi with
  | listed _ h => exact nothing _ h
  | through _ h _ => exact nothing _ h

/-- What is implemented, itself or up to variance, is an interface. -/
theorem isInterface_of_implements (hu : u.Layered) (hs : s ∈ u) (hi : i ∈ u.interfacesOf s)
    (h : i = t ∨ Varies u i t) : t.isInterface = true := by
  have interface := isInterface_of_mem_interfacesOf hu hs hi
  rcases h with rfl | h
  · exact interface
  · rw [isInterface_iff] at interface ⊢
    rw [← h.kind_eq, interface]

theorem not_admits_of_isValueType (h : s.isValueType = true) : s.kind.admitsVariance = false := by
  cases hk : s.kind <;>
    simp_all [TypeDescriptor.isValueType, TypeKind.isValue, TypeKind.admitsVariance]

/-- **What boxes as one type boxes as every type that it converts to.** -/
theorem Boxes.widen {v : TypeDescriptor} (hu : u.WellFormed) (hv : v ∈ u) (hs : s ∈ u) (ht : t ∈ u)
    (value : v.isValueType = true) (h : Boxes u v s) (hst : isImplicitReference u s t = true) :
    Boxes u v t := by
  have layered := hu.toLayered
  obtain ⟨ne, -, -, reaches⟩ := (isImplicitReference_iff layered hs ht).mp hst
  by_cases object : t = FrameworkType.object.descriptor
  · exact .object object
  cases h with
  | object h =>
    subst h
    exact absurd reaches (not_reaches_of_object layered object)
  | valueType h =>
    subst h
    cases reaches with
    | object h => exact .object h
    | varies h => cases h.admits
    | implements hi _ => exact absurd hi (not_mem_interfacesOf_valueType layered)
    | derives h => exact .object (eq_object_of_derives layered h)
    | list hs | elements hs => cases hs
  | enum h isEnum =>
    subst h
    cases reaches with
    | object h => exact .object h
    | varies h => cases h.admits
    | implements hi h =>
      have derives : u.Derives v FrameworkType.enum.descriptor :=
        .base ((hu.shaped v hv).enum_base isEnum) hs
      exact .implements (isInterface_of_implements layered hs hi h)
        (interfacesOf_subset layered hv derives hi) h
    | derives h =>
      rcases h.of_framework layered (g := .valueType) rfl with e | h
      · exact .valueType e
      · exact .object (eq_object_of_derives layered h)
    | list hs | elements hs => cases hs
  | implements interface hi h =>
    obtain ⟨rank, hr⟩ := hu.ranked
    have interface := (reaches.of_interface layered hr hs (isInterface_iff.mp interface) object).1
    have below : ∀ n, WidensTransBelow u rank n :=
      fun n a ha b hb c hc _ => Widens.trans hu ha hb hc
    have noArray : ∀ n, v.kind ≠ .array n := fun n e => by
      rw [TypeDescriptor.isValueType, e] at value
      cases value
    cases Reaches.after_implements layered hr hv hs ht (below _) (Nat.le_refl _) hi h reaches with
    | object h => exact absurd h object
    | varies h => exact absurd h.admits (by simp [not_admits_of_isValueType value])
    | implements hj h => exact .implements (isInterface_iff.mpr interface) hj h
    | derives h =>
      have class_ := (h.isOpen layered hv).1
      rw [isInterface_iff.mpr interface] at class_
      cases class_
    | list hs | elements hs => exact absurd hs (noArray _)

/-! ## Standard conversions of references -/

theorem classifyValue_eq_none (h : s.isReferenceType = true ∨ t.isReferenceType = true) :
    classifyValue u s t = none := by
  have notValue : s.isValueType = false ∨ t.isValueType = false := by
    refine h.imp ?_ ?_ <;> intro h <;> by_contra value <;>
      simp [isReferenceType_of_isValueType (Bool.not_eq_false _ ▸ value)] at h
  rw [classifyValue]
  rcases notValue with h | h <;> simp [h]

theorem isValueType_of_isReferenceType (h : s.isReferenceType = true) : s.isValueType = false := by
  by_contra value
  rw [isReferenceType_of_isValueType (Bool.not_eq_false _ ▸ value)] at h
  cases h

/-- References that convert implicitly do so by their standard conversion. -/
theorem classifyStandard_of_isImplicitReference (hu : u.Layered) (hs : s ∈ u) (ht : t ∈ u)
    (h : isImplicitReference u s t = true) : classifyStandard u s t = some .implicitReference := by
  obtain ⟨ne, refS, refT, -⟩ := (isImplicitReference_iff hu hs ht).mp h
  have distinct : s.token ≠ t.token := fun e => ne (eq_of_token_eq hs ht e)
  rw [classifyStandard, if_neg distinct, classifyValue_eq_none (.inl refS)]
  simp [isValueType_of_isReferenceType refS, isValueType_of_isReferenceType refT,
    classifyReference, h]

/-- A value type converts to what it boxes as by boxing. -/
theorem classifyStandard_of_isBoxingTarget (hu : u.Layered) (hs : s ∈ u) (ht : t ∈ u)
    (h : isBoxingTarget u s t = true) : classifyStandard u s t = some .box := by
  obtain ⟨value, refT, -⟩ := (isBoxingTarget_iff hu hs ht).mp h
  have distinct : s.token ≠ t.token :=
    fun e => ne_of_isValueType value refT (eq_of_token_eq hs ht e)
  rw [classifyStandard, if_neg distinct, classifyValue_eq_none (.inr refT)]
  simp [value, refT, h]

end TypeConversion
