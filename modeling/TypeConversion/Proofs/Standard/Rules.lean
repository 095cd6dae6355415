import TypeConversion.Host
import TypeConversion.Proofs.Reference.Boxing

/-!
# The rules of standard conversion

* `ContentRule s t c`: `c` converts between two value types that are no optionals.
* `StandardRule u s t c`: one of the seven rules of standard conversion gives `c` from `s` to `t`.
* `standardRule_of_classifyStandard`: every standard conversion comes from one of the rules.
* `Splice.Connects u s t splice`: the splice leads from `s` to `t` by a standard conversion.
-/

namespace TypeConversion

open Universe Reference

variable {u : Universe} {s t : TypeDescriptor} {c : Conversion}

/-- The conversions between value types that are no optionals. -/
inductive ContentRule (s t : TypeDescriptor) : Conversion → Prop
  | identity (h : s.token = t.token) : ContentRule s t .identity
  | numeric {a b : NumericKind} (isImplicit : Bool) (hs : s.numericKind? = some a)
      (ht : t.numericKind? = some b)
      (flag : isImplicit = (NumericRelation.between a b != .explicit)) :
      ContentRule s t (.numeric isImplicit ⟨a, b⟩)
  | enumeration {a b : NumericKind} (hs : s.numericKind? = some a)
      (ht : t.numericKind? = some b) : ContentRule s t (.enumeration ⟨a, b⟩)

/-- The standard conversions. -/
inductive StandardRule (u : Universe) (s t : TypeDescriptor) : Conversion → Prop
  | identity (h : s = t) : StandardRule u s t .identity
  | content {c : Conversion} (hs : s.isValueType = true) (ht : t.isValueType = true)
      (plainS : s.isOptional = false) (plainT : t.isOptional = false) (h : ContentRule s t c) :
      StandardRule u s t c
  | nullable {c : Conversion} (hs : s.isValueType = true) (ht : t.isValueType = true)
      (one : s.isOptional = true ∨ t.isOptional = true)
      (h : ContentRule (u.unwrapOptional s) (u.unwrapOptional t) c) :
      StandardRule u s t
        (.nullable (c.isImplicit && t.isOptional) s.isOptional t.isOptional c)
  | box (h : isBoxingTarget u s t = true) : StandardRule u s t .box
  | unbox (hs : s.isReferenceType = true) (ht : t.isValueType = true)
      (h : isBoxingTarget u t s = true) : StandardRule u s t .unbox
  | implicitReference (h : isImplicitReference u s t = true) :
      StandardRule u s t .implicitReference
  | explicitReference (hs : s.isReferenceType = true) (ht : t.isReferenceType = true)
      (h : isExplicitReference u s t = true) : StandardRule u s t .explicitReference

theorem contentRule_of_classifyContent (h : classifyContent s t = some c) : ContentRule s t c := by
  rw [classifyContent] at h
  split at h
  · rename_i same
    cases h
    exact .identity same
  · split at h
    · rename_i a b hs ht
      split at h <;> cases h
      · exact .enumeration hs ht
      · exact .numeric _ hs ht rfl
    · cases h

theorem standardRule_of_classifyValue (h : classifyValue u s t = some c) :
    StandardRule u s t c := by
  rw [classifyValue] at h
  split at h
  · cases h
  rename_i values
  obtain ⟨hs, ht⟩ : s.isValueType = true ∧ t.isValueType = true := by simpa [not_or] using values
  split at h
  · cases h
  rename_i content found
  have content := contentRule_of_classifyContent found
  split at h <;> cases h
  · rename_i plain
    obtain ⟨plainS, plainT⟩ : s.isOptional = false ∧ t.isOptional = false := by simpa using plain
    rw [unwrapOptional_of_not_optional plainS, unwrapOptional_of_not_optional plainT] at content
    exact .content hs ht plainS plainT content
  · rename_i plain
    refine .nullable hs ht ?_ content
    cases hs : s.isOptional <;> cases ht : t.isOptional <;> simp_all

theorem isReferenceType_of_isExplicitReference (hu : u.Layered) (hs : s ∈ u) (ht : t ∈ u)
    (h : isExplicitReference u s t = true) :
    s.isReferenceType = true ∧ t.isReferenceType = true := by
  rw [isExplicitReference_eq hu hs ht, explicitRule] at h
  split at h
  · cases h
  · rename_i guard
    have distinct : distinctReferences s t = true := by
      cases hd : distinctReferences s t <;> simp_all
    exact ((distinctReferences_iff hs ht).mp distinct).2

/-- **Every standard conversion comes from one of the rules.** -/
theorem standardRule_of_classifyStandard (hu : u.Layered) (hs : s ∈ u) (ht : t ∈ u)
    (h : classifyStandard u s t = some c) : StandardRule u s t c := by
  rw [classifyStandard] at h
  split at h
  · rename_i same
    cases h
    exact .identity (eq_of_token_eq hs ht same)
  split at h
  · rename_i found
    cases h
    exact standardRule_of_classifyValue found
  split at h
  · split at h <;> cases h
    exact .box ‹_›
  split at h
  · rename_i roles
    obtain ⟨refS, valueT⟩ := Bool.and_eq_true_iff.mp roles
    split at h <;> cases h
    exact .unbox refS valueT ‹_›
  rw [classifyReference] at h
  split at h
  · cases h
    exact .implicitReference ‹_›
  split at h
  · rename_i explicit
    cases h
    obtain ⟨refS, refT⟩ := isReferenceType_of_isExplicitReference hu hs ht explicit
    exact .explicitReference refS refT explicit
  · cases h

theorem classifyStandard_eq_implicitReference_iff (hu : u.Layered) (hs : s ∈ u) (ht : t ∈ u) :
    classifyStandard u s t = some .implicitReference ↔ isImplicitReference u s t = true := by
  refine ⟨fun h => ?_, classifyStandard_of_isImplicitReference hu hs ht⟩
  cases standardRule_of_classifyStandard hu hs ht h with
  | content _ _ _ _ h => cases h
  | implicitReference h => exact h

theorem classifyStandard_eq_box_iff (hu : u.Layered) (hs : s ∈ u) (ht : t ∈ u) :
    classifyStandard u s t = some .box ↔ isBoxingTarget u s t = true := by
  refine ⟨fun h => ?_, classifyStandard_of_isBoxingTarget hu hs ht⟩
  cases standardRule_of_classifyStandard hu hs ht h with
  | content _ _ _ _ h => cases h
  | box h => exact h

/-! ## Splices -/

/-- What leads from one type to another: nothing if they are one, or a standard conversion. -/
inductive Splice.Connects (u : Universe) (s t : TypeDescriptor) : Splice → Prop
  | absent (h : s = t) : Connects u s t .absent
  | along {c : Conversion} (h : classifyStandard u s t = some c) : Connects u s t (.along s t c)

theorem connects_of_connect? (hs : s ∈ u) (ht : t ∈ u) {splice : Splice}
    (h : HostRegistry.connect? u s t = some splice) : splice.Connects u s t := by
  rw [HostRegistry.connect?] at h
  split at h
  · rename_i same
    cases h
    exact .absent (eq_of_token_eq hs ht same)
  · split at h
    · rename_i standard
      split at h <;> cases h
      exact .along standard
    · cases h

end TypeConversion
