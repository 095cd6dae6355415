import TypeConversion.Proofs.Soundness.Instructions
import TypeConversion.Proofs.Numeric.Widening

/-!
# Standard conversions are sound

Each rule of standard conversion leads to a block that is sound between its two types
(`sound_of_classifyStandard`).

* A cast gives a number of its target kind, a cast without an instruction is between equal kinds.
* What comes out of a box is of the target type, or the test fails; a box is null or holds a value
  of the content of its source.
* An upcast changes nothing and needs `WellTyped.widen`.
-/

namespace TypeConversion

open Universe

/-! ## Numbers -/

theorem CastOperation.eq_of_between_eq_identity {a b : NumericKind}
    (h : CastOperation.between a b = .identity) : a = b := by
  by_contra ne
  unfold between at h
  rw [if_neg ne] at h
  rcases a with a | _ | _ | _ <;> rcases b with b | _ | _ | _ <;> try contradiction
  change betweenIntegers a b = .identity at h
  unfold betweenIntegers at h
  split at h
  · split at h <;> cases h
  · split at h <;> cases h

variable {x : Execution} {procedure : Option Procedure} {s t : TypeDescriptor} {c : Conversion}

theorem sound_cast {a b : NumericKind} (hs : s.numericKind? = some a)
    (ht : t.numericKind? = some b) : Sound x procedure s t (NumericCast.program ⟨a, b⟩) := by
  rw [NumericCast.program]
  split
  · rename_i identity
    have same : a = b := CastOperation.eq_of_between_eq_identity identity
    subst same
    intro v hv
    exact (wellTyped_numeric_iff ht).mpr ((wellTyped_numeric_iff hs).mp hv)
  · refine .single fun v hv => ?_
    obtain ⟨n, rfl, kind⟩ := (wellTyped_numeric_iff hs).mp hv
    rw [Instruction.run, Value.cast, if_pos kind]
    cases hcast : n.cast? b x.overflow with
    | some result => exact (wellTyped_numeric_iff ht).mpr ⟨result, rfl, Number.kind_cast? hcast⟩
    | none => exact Failure.overflow _ _

/-! ## Value types -/

theorem sound_content (hs : s ∈ x.types) (ht : t ∈ x.types) (h : ContentRule s t c) :
    Sound x procedure s t c.contentProgram := by
  cases h with
  | identity same =>
    obtain rfl := eq_of_token_eq hs ht same
    exact .nil
  | numeric _ hs ht => exact sound_cast hs ht
  | enumeration hs ht => exact sound_cast hs ht

/-- Between types that are no optionals, the program of the content is the whole program. -/
theorem ContentRule.program_eq {u : Universe} (h : ContentRule s t c) (a b : TypeDescriptor) :
    c.program u a b = c.contentProgram := by
  cases h <;> simp only [Conversion.program, Conversion.contentProgram]

theorem sound_throughOptional (hu : x.types.Layered) (hs : s ∈ x.types) (ht : t ∈ x.types)
    {block : List Instruction} (one : s.isOptional = true ∨ t.isOptional = true)
    (h : Sound x procedure (x.types.unwrapOptional s) (x.types.unwrapOptional t) block) :
    Sound x procedure s t (Instruction.throughOptional s.isOptional t.isOptional block) := by
  cases optionalS : s.isOptional <;> cases optionalT : t.isOptional
  · simp [optionalS, optionalT] at one
  · rw [unwrapOptional_of_not_optional optionalS] at h
    exact h.append (.wrap (isOptionalIn_unwrapOptional hu ht optionalT))
  · rw [unwrapOptional_of_not_optional optionalT] at h
    have block := Sound.unwrap (isOptionalIn_unwrapOptional hu hs optionalS) h
    simpa [Instruction.throughOptional] using block
  · exact .lift (isOptionalIn_unwrapOptional hu hs optionalS)
      (isOptionalIn_unwrapOptional hu ht optionalT) h

/-! ## Boxes -/

theorem sound_box (hu : x.types.Layered) (hs : s ∈ x.types) (ht : t ∈ x.types)
    (h : isBoxingTarget x.types s t = true) :
    Sound x procedure s t [.box (x.types.unwrapOptional s).token] := by
  obtain ⟨value, reference, boxes⟩ := (isBoxingTarget_iff hu hs ht).mp h
  have inner := unwrapOptional_mem hu hs
  have plain := isOptional_unwrapOptional hu hs
  have innerValue := isValueType_unwrapOptional hu hs value
  have target : isBoxingTarget x.types (x.types.unwrapOptional s) t = true :=
    (isBoxingTarget_iff hu inner ht).mpr
      ⟨innerValue, reference, by rwa [unwrapOptional_of_not_optional plain]⟩
  have boxed : ∀ w, WellTyped x.types w (x.types.unwrapOptional s) →
      WellTyped x.types (.boxed (x.types.unwrapOptional s).token w) t := fun w hw =>
    ⟨reference, _, inner, innerValue, plain, hw,
      .inr (.inr (classifyStandard_of_isBoxingTarget hu inner ht target))⟩
  refine .single fun v hv => ?_
  change WellTyped x.types (v.box _) t
  cases optional : s.isOptional with
  | true =>
    have content := isOptionalIn_unwrapOptional hu hs optional
    rcases content.wellTyped_iff.mp hv with rfl | ⟨w, rfl, hw⟩
    · exact reference
    · exact boxed w hw
  | false =>
    rw [unwrapOptional_of_not_optional optional] at boxed ⊢
    rw [(hv.isPlain value optional).box]
    exact boxed v hv

/-- What a box holds is of the type that it is taken out as, if the test succeeds. -/
theorem unboxContent_yields {u : Universe} {r : TypeDescriptor} {nullable : Bool} {w : Value}
    (hr : r ∈ u) (ht : t ∈ u) (content : WellTyped u w r ∨ r.isReferenceType = true)
    (value : t.isValueType = true) {outer : TypeDescriptor}
    (outer_some : nullable = true → IsOptionalIn u outer t)
    (outer_none : nullable = false → outer = t) :
    Yields u procedure outer (u.unboxContent t nullable r.token w) := by
  rw [unboxContent]
  split
  · rename_i unboxes
    have typed : WellTyped u w t := by
      rw [unboxesTo, mem_iff.mp hr, Bool.or_eq_true, beq_iff_eq] at unboxes
      rcases unboxes with same | unboxes
      · obtain rfl := eq_of_token_eq hr ht same
        refine content.resolve_right fun reference => ?_
        rw [isReferenceType_of_isValueType value] at reference
        cases reference
      · simp only [Bool.and_eq_true, beq_iff_eq] at unboxes
        obtain ⟨⟨-, numeric⟩, same⟩ := unboxes
        obtain ⟨k, hk⟩ := Option.isSome_iff_exists.mp numeric
        have typed : WellTyped u w r := by
          refine content.resolve_right fun reference => ?_
          rw [isReferenceType_of_numericKind? hk] at reference
          cases reference
        exact (wellTyped_numeric_iff (same ▸ hk)).mpr ((wellTyped_numeric_iff hk).mp typed)
    cases nullable with
    | true =>
      have optional := outer_some rfl
      exact optional.wellTyped_iff.mpr (.inr ⟨w, rfl, typed⟩)
    | false =>
      rw [outer_none rfl]
      exact typed
  · exact Failure.invalidCast _ _

theorem sound_unbox (hu : x.types.Layered) (ht : t ∈ x.types)
    (reference : s.isReferenceType = true) (value : t.isValueType = true) :
    Sound x procedure s t [.unbox (x.types.unwrapOptional t) t.isOptional] := by
  have inner := unwrapOptional_mem hu ht
  have innerValue := isValueType_unwrapOptional hu ht value
  have optional : t.isOptional = true → IsOptionalIn x.types t (x.types.unwrapOptional t) :=
    isOptionalIn_unwrapOptional hu ht
  have plain : t.isOptional = false → t = x.types.unwrapOptional t := fun h =>
    (unwrapOptional_of_not_optional h).symm
  refine .single fun v hv => ?_
  change Yields _ _ t (x.types.unboxValue _ _ v)
  rcases (wellTyped_reference_iff reference).mp hv with rfl | ⟨r, refers, -⟩
  · rw [unboxValue]
    cases h : t.isOptional with
    | true => exact h
    | false => exact Failure.nullReference _
  · have hr := refers.mem hu
    cases refers with
    | string text => exact unboxContent_yields hr inner (.inr rfl) innerValue optional plain
    | boxed found _ _ content =>
      obtain ⟨-, rfl⟩ := mem_of_find?_eq_some found
      exact unboxContent_yields hr inner (.inl content) innerValue optional plain
    | object found ref =>
      simp only [unboxValue, runtimeType?, found]
      exact unboxContent_yields hr inner (.inr ref) innerValue optional plain

/-! ## References -/

theorem sound_upcast (hu : x.types.WellFormed) (hs : s ∈ x.types) (ht : t ∈ x.types)
    (h : isImplicitReference x.types s t = true) : Sound x procedure s t [.upcast] :=
  .single fun _ hv => hv.widen hu hs ht h

theorem fits_of_isInstanceOf {u : Universe} {r : TypeDescriptor} {v : Value} (hu : u.Layered)
    (ht : t ∈ u) (refers : Refers u v r) (h : u.isInstanceOf r t = true) : Fits u r t := by
  rw [Universe.isInstanceOf, Bool.or_eq_true] at h
  rcases h with object | h
  · rw [(mem_framework_iff hu ht).mp object]
    exact refers.fits_object hu
  · split at h
    · rename_i found
      cases standardRule_of_classifyStandard hu (refers.mem hu) ht found with
      | identity same => exact .inl same
      | content _ _ _ _ h =>
        cases h with
        | identity same => exact .inl (eq_of_token_eq (refers.mem hu) ht same)
    · exact .inr (.inl ‹_›)
    · exact .inr (.inr ‹_›)
    · cases h

theorem sound_downcast (hu : x.types.Layered) (ht : t ∈ x.types)
    (referenceS : s.isReferenceType = true) (referenceT : t.isReferenceType = true) :
    Sound x procedure s t [.downcast t] := by
  refine .single fun v hv => ?_
  change Yields _ _ t (x.types.downcastValue t v)
  rcases (wellTyped_reference_iff referenceS).mp hv with rfl | ⟨r, refers, -⟩
  · exact referenceT
  · rw [downcastValue, refers.isNull, refers.runtimeType?]
    simp only [Bool.false_eq_true, if_false]
    split
    · rename_i test
      exact (wellTyped_reference_iff referenceT).mpr
        (.inr ⟨r, refers, fits_of_isInstanceOf hu ht refers test⟩)
    · exact Failure.invalidCast _ _

/-- **Every standard conversion is sound.** -/
theorem sound_of_classifyStandard (hu : x.types.WellFormed) (hs : s ∈ x.types) (ht : t ∈ x.types)
    (h : classifyStandard x.types s t = some c) :
    Sound x procedure s t (c.program x.types s t) := by
  have layered := hu.toLayered
  cases standardRule_of_classifyStandard layered hs ht h with
  | identity same =>
    rw [← same, Conversion.program]
    exact .nil
  | content _ _ _ _ rule =>
    rw [rule.program_eq]
    exact sound_content hs ht rule
  | nullable _ _ one rule =>
    rw [Conversion.program]
    have inner := unwrapOptional_mem layered hs
    exact sound_throughOptional layered hs ht one
      (sound_content inner (unwrapOptional_mem layered ht) rule)
  | box target =>
    rw [Conversion.program]
    exact sound_box layered hs ht target
  | unbox reference value _ =>
    rw [Conversion.program]
    exact sound_unbox layered ht reference value
  | implicitReference implicit =>
    rw [Conversion.program]
    exact sound_upcast hu hs ht implicit
  | explicitReference referenceS referenceT _ =>
    rw [Conversion.program]
    exact sound_downcast layered ht referenceS referenceT

end TypeConversion
