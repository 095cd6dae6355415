import TypeConversion.Proofs.Reference.Return
import TypeConversion.Proofs.Standard.Rules

/-!
# The way back from an implicit standard conversion

* `classifyContent_isSome_back`: the conversions between contents come in pairs.
* `classifyStandard_back_iff`: an implicit standard conversion has one back exactly if its types are
  not stranded. Numbers can be cast back, contents taken out of their optionals and values out of
  their boxes, so only references can be stranded.
* `not_classifyStandard_back`: there are stranded references. A sealed class that enumerates texts
  is an enumeration of objects, and none of those converts to the class.
-/

namespace TypeConversion

open Universe Reference

variable {u : Universe} {s t : TypeDescriptor} {c : Conversion}

/-! ## Values -/

/-- The conversions between contents come in pairs. -/
theorem classifyContent_isSome_back (h : ContentRule s t c) :
    (classifyContent t s).isSome = true := by
  rw [classifyContent]
  split
  · rfl
  rename_i other
  cases h with
  | identity same => exact absurd same.symm other
  | numeric _ hs ht | enumeration hs ht =>
    rw [hs, ht]
    dsimp only
    split <;> rfl

theorem classifyValue_isSome (hs : s.isValueType = true) (ht : t.isValueType = true)
    (h : (classifyContent (u.unwrapOptional s) (u.unwrapOptional t)).isSome = true) :
    (classifyValue u s t).isSome = true := by
  obtain ⟨content, h⟩ := Option.isSome_iff_exists.mp h
  simp only [classifyValue, hs, ht, h, Bool.not_true, Bool.or_self, Bool.false_eq_true, if_false]
  split <;> rfl

theorem classifyStandard_isSome_of_classifyValue (h : (classifyValue u s t).isSome = true) :
    (classifyStandard u s t).isSome = true := by
  obtain ⟨c, h⟩ := Option.isSome_iff_exists.mp h
  rw [classifyStandard, h]
  split <;> rfl

/-- Values that convert can be converted back. -/
theorem classifyStandard_isSome_back (hs : s.isValueType = true) (ht : t.isValueType = true)
    (h : ContentRule (u.unwrapOptional s) (u.unwrapOptional t) c) :
    (classifyStandard u t s).isSome = true :=
  classifyStandard_isSome_of_classifyValue
    (classifyValue_isSome ht hs (classifyContent_isSome_back h))

/-! ## References -/

/-- What boxes as a reference type can be unboxed from it. -/
theorem classifyStandard_of_isBoxingTarget_back (hu : u.Layered) (hs : s ∈ u) (ht : t ∈ u)
    (h : isBoxingTarget u s t = true) : classifyStandard u t s = some .unbox := by
  obtain ⟨value, refT, -⟩ := (isBoxingTarget_iff hu hs ht).mp h
  have distinct : t.token ≠ s.token :=
    fun e => ne_of_isValueType value refT (eq_of_token_eq hs ht e.symm)
  rw [classifyStandard, if_neg distinct, classifyValue_eq_none (.inl refT)]
  simp [value, refT, isValueType_of_isReferenceType refT, h]

/-- References that convert implicitly convert back by the explicit rules only. -/
theorem classifyStandard_back_of_isImplicitReference (hu : u.WellFormed) (hs : s ∈ u) (ht : t ∈ u)
    (h : isImplicitReference u s t = true) :
    (classifyStandard u t s).isSome = isExplicitReference u t s := by
  obtain ⟨ne, refS, refT, -⟩ := (isImplicitReference_iff hu.toLayered hs ht).mp h
  have distinct : t.token ≠ s.token := fun e => ne (eq_of_token_eq hs ht e.symm)
  rw [classifyStandard, if_neg distinct, classifyValue_eq_none (.inl refT)]
  simp only [isValueType_of_isReferenceType refS, isValueType_of_isReferenceType refT,
    Bool.false_and, Bool.and_false, Bool.false_eq_true, if_false, classifyReference,
    not_isImplicitReference_both hu hs ht h]
  cases isExplicitReference u t s <;> rfl

/-- **An implicit standard conversion has one back exactly if its types are not stranded.** -/
theorem classifyStandard_back_iff (hu : u.Built) (hs : s ∈ u) (ht : t ∈ u)
    (h : classifyStandard u s t = some c) (implicit : c.isImplicit = true) :
    (classifyStandard u t s).isSome = true ↔ ¬Stranded u s t := by
  have wellFormed := hu.wellFormed
  have layered := wellFormed.toLayered
  have notStranded : s.isValueType = true → ¬Stranded u s t := fun value stranded => by
    have reference := stranded.source_kind.1
    rw [isReferenceType_of_isValueType value] at reference
    cases reference
  cases standardRule_of_classifyStandard layered hs ht h with
  | identity same =>
    subst same
    have back : (classifyStandard u s s).isSome = true := by
      rw [h]
      rfl
    exact iff_of_true back fun stranded => stranded.ne layered hs rfl
  | content valueS valueT plainS plainT content =>
    rw [← unwrapOptional_of_not_optional (u := u) plainS,
      ← unwrapOptional_of_not_optional (u := u) plainT] at content
    exact iff_of_true (classifyStandard_isSome_back valueS valueT content) (notStranded valueS)
  | nullable valueS valueT _ content =>
    exact iff_of_true (classifyStandard_isSome_back valueS valueT content) (notStranded valueS)
  | box boxes =>
    refine iff_of_true ?_ (notStranded ((isBoxingTarget_iff layered hs ht).mp boxes).1)
    rw [classifyStandard_of_isBoxingTarget_back layered hs ht boxes]
    rfl
  | unbox | explicitReference => cases implicit
  | implicitReference leads =>
    rw [classifyStandard_back_of_isImplicitReference wellFormed hs ht leads]
    exact isExplicitReference_iff_not_stranded wellFormed hs ht leads

/-- A sealed class of names enumerates texts. It is an enumeration of objects, and no enumeration of
objects converts to it. -/
theorem exists_stranded_class : ∃ (u : Universe) (s t : TypeDescriptor), u.Built ∧ s ∈ u ∧ t ∈ u ∧
    isImplicitReference u s t = true ∧ isExplicitReference u t s = false := by
  let enumerable := FrameworkType.enumerableOf.descriptor
  obtain ⟨texts, u₁, ofTexts⟩ : ∃ t v,
    Universe.initial.instantiate enumerable [FrameworkType.string.descriptor] = .ok (t, v) :=
    ⟨_, _, rfl⟩
  have built₁ : u₁.Built := by
    refine .step .initial (.instantiate (by decide) (by decide) ofTexts) ?_
    cases ofTexts
    constructor <;> decide
  -- the class has the enumeration of texts only, and nothing derives from it
  let d := (((Declaration.start u₁).1.asClass "Shop" "Names").implementing texts.token).asSealed
  have described : d.Described d.token := .asSealed (.implementing _ (.asClass _ _ .start))
  have begun : u₁.allocate.2.Built := by
    refine .step built₁ .allocate ?_
    cases ofTexts
    constructor <;> decide
  have allocated : u₁.allocate.2.Allocated d.token := by
    cases ofTexts
    exact ⟨_, by decide, by decide, rfl⟩
  obtain ⟨names, u₂, made⟩ : ∃ t v, d.build u₁.allocate.2 = (.ok t, v) := by
    cases ofTexts
    exact ⟨_, _, rfl⟩
  have built₂ : u₂.Built := by
    have step := Step.build d allocated described
    rw [made] at step
    refine .step begun step ?_
    cases ofTexts
    cases made
    constructor <;> decide
  -- the enumeration of objects comes up after the class, which does not mention it
  obtain ⟨objects, u₃, ofObjects⟩ : ∃ t v,
      u₂.instantiate enumerable [FrameworkType.object.descriptor] = .ok (t, v) := by
    cases ofTexts
    cases made
    exact ⟨_, _, rfl⟩
  have built₃ : u₃.Built := by
    have known := built₂.wellFormed.framework
    refine .step built₂ (.instantiate (known .enumerableOf) ?_ ofObjects) ?_
    · exact fun a ha => List.mem_singleton.mp ha ▸ known .object
    cases ofTexts
    cases made
    cases ofObjects
    constructor <;> decide
  refine ⟨u₃, names, objects, built₃, ?_⟩
  cases ofTexts
  cases made
  cases ofObjects
  decide +kernel

/-- Not every implicit standard conversion has one back. -/
theorem not_classifyStandard_back : ¬∀ (u : Universe) (s t : TypeDescriptor) (c : Conversion),
    u.Built → s ∈ u → t ∈ u → classifyStandard u s t = some c → c.isImplicit = true →
      (classifyStandard u t s).isSome = true := by
  obtain ⟨u, s, t, built, hs, ht, up, noWay⟩ := exists_stranded_class
  intro back
  have found := classifyStandard_of_isImplicitReference built.wellFormed.toLayered hs ht up
  have isSome := back u s t _ built hs ht found rfl
  rw [classifyStandard_back_of_isImplicitReference built.wellFormed hs ht up, noWay] at isSome
  cases isSome

/-- The class that no enumeration of objects converts to is stranded as one. -/
theorem classifyStandard_back_iff_class : ∃ (u : Universe) (s t : TypeDescriptor), u.Built ∧ s ∈ u ∧
    t ∈ u ∧ classifyStandard u s t = some .implicitReference ∧
      (classifyStandard u t s).isSome = false ∧ Stranded u s t := by
  obtain ⟨u, s, t, built, hs, ht, up, noWay⟩ := exists_stranded_class
  have found := classifyStandard_of_isImplicitReference built.wellFormed.toLayered hs ht up
  have back := classifyStandard_back_iff built hs ht found rfl
  have isNone := classifyStandard_back_of_isImplicitReference built.wellFormed hs ht up
  rw [noWay] at isNone
  rw [isNone] at back
  refine ⟨u, s, t, built, hs, ht, found, isNone, ?_⟩
  by_contra notStranded
  exact absurd (back.mpr notStranded) Bool.false_ne_true

end TypeConversion
