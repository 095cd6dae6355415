import TypeConversion.Converter
import TypeConversion.Proofs.Standard.Rules

/-!
# Well-typed values

* `Fits u r t`: references to values of the runtime type `r` are references of type `t`.
* `WellTyped u v t`: `v` is a value of the type `t`. A number counts for a numeric type and for an
  enumeration, an instance for the type that it is tagged with, and a reference for every type that
  its runtime type fits.
* `Fits.widen` and `WellTyped.widen`: a reference of a type is one of every type that the type
  converts to implicitly, which is why an upcast does nothing.
-/

namespace TypeConversion

open Universe

variable {u : Universe} {e r s t : TypeDescriptor} {v w : Value}

/-- References to values of the first type are references of the second. -/
def Fits (u : Universe) (r t : TypeDescriptor) : Prop :=
  r = t ∨ classifyStandard u r t = some .implicitReference ∨ classifyStandard u r t = some .box

/-- A value of a type. -/
def WellTyped (u : Universe) : Value → TypeDescriptor → Prop
  | .null, t => t.isReferenceType = true
  | .bool _, t => t.kind = .boolean
  | .number n, t => t.numericKind? = some n.kind
  | .string _, t => t.isReferenceType = true ∧ Fits u FrameworkType.string.descriptor t
  | .empty, t => t.isOptional = true
  | .present w, t => t.isOptional = true ∧ ∃ e, u.elementOf? t = some e ∧ WellTyped u w e
  | .boxed type w, t => t.isReferenceType = true ∧ ∃ r, u.find? type = some r
      ∧ r.isValueType = true ∧ r.isOptional = false ∧ WellTyped u w r ∧ Fits u r t
  | .object type _ _, t => (t.kind = .struct ∧ t.token = type) ∨
      (t.isReferenceType = true ∧ ∃ r, u.find? type = some r ∧ r.isReferenceType = true
        ∧ Fits u r t)

/-- A reference to a value of the given runtime type. -/
inductive Refers (u : Universe) : Value → TypeDescriptor → Prop
  | string (text : String) : Refers u (.string text) FrameworkType.string.descriptor
  | boxed {type : Token} {w : Value} {r : TypeDescriptor} (found : u.find? type = some r)
      (value : r.isValueType = true) (plain : r.isOptional = false) (content : WellTyped u w r) :
      Refers u (.boxed type w) r
  | object {type : Token} {identity : Nat} {payload : Value} {r : TypeDescriptor}
      (found : u.find? type = some r) (reference : r.isReferenceType = true) :
      Refers u (.object type identity payload) r

/-- A value that is neither null nor an optional. -/
def Value.IsPlain : Value → Prop
  | .null | .empty | .present _ => False
  | .bool _ | .number _ | .string _ | .boxed _ _ | .object _ _ _ => True

/-! ## The forms of the values of a type -/

/-- What a type is said to be cannot be of a kind that it is not. -/
theorem isReferenceType_of_kind {k : TypeKind} (h : t.kind = k) :
    t.isReferenceType = k.isReference := by rw [TypeDescriptor.isReferenceType, h]

theorem isReferenceType_of_numericKind? {k : NumericKind} (h : t.numericKind? = some k) :
    t.isReferenceType = false := by
  rw [TypeDescriptor.numericKind?] at h
  rw [TypeDescriptor.isReferenceType]
  cases hk : t.kind <;> simp_all [TypeKind.numericKind?, TypeKind.isReference]

theorem kind_of_isOptional (h : t.isOptional = true) : t.kind = .optional := beq_iff_eq.mp h

/-- **The values of a reference type** are null and the references whose runtime type fits it. -/
theorem wellTyped_reference_iff (reference : t.isReferenceType = true) :
    WellTyped u v t ↔ v = .null ∨ ∃ r, Refers u v r ∧ Fits u r t := by
  constructor
  · intro h
    cases v with
    | null => exact .inl rfl
    | string text => exact .inr ⟨_, .string text, h.2⟩
    | boxed type w =>
      obtain ⟨-, r, found, value, plain, content, fits⟩ := h
      exact .inr ⟨r, .boxed found value plain content, fits⟩
    | object type identity payload =>
      rcases h with ⟨kind, -⟩ | ⟨-, r, found, ref, fits⟩
      · simp [isReferenceType_of_kind kind, TypeKind.isReference] at reference
      · exact .inr ⟨r, .object found ref, fits⟩
    | bool b => simp [isReferenceType_of_kind h, TypeKind.isReference] at reference
    | number n => simp [isReferenceType_of_numericKind? h] at reference
    | empty =>
      simp [isReferenceType_of_kind (kind_of_isOptional h), TypeKind.isReference] at reference
    | present w =>
      simp [isReferenceType_of_kind (kind_of_isOptional h.1), TypeKind.isReference] at reference
  · rintro (rfl | ⟨r, h, fits⟩)
    · exact reference
    · cases h with
      | string text => exact ⟨reference, fits⟩
      | boxed found value plain content =>
        exact ⟨reference, r, found, value, plain, content, fits⟩
      | object found ref => exact .inr ⟨reference, r, found, ref, fits⟩

/-- The values of a type that is no reference type. -/
inductive Direct (u : Universe) (t : TypeDescriptor) : Value → Prop
  | bool (b : Bool) (h : t.kind = .boolean) : Direct u t (.bool b)
  | number (n : Number) (h : t.numericKind? = some n.kind) : Direct u t (.number n)
  | empty (h : t.isOptional = true) : Direct u t .empty
  | present {w : Value} (h : t.isOptional = true) {e : TypeDescriptor}
      (element : u.elementOf? t = some e) (content : WellTyped u w e) : Direct u t (.present w)
  | object {type : Token} (identity : Nat) (payload : Value) (h : t.kind = .struct)
      (same : t.token = type) : Direct u t (.object type identity payload)

theorem WellTyped.direct (noReference : t.isReferenceType = false) (h : WellTyped u v t) :
    Direct u t v := by
  have impossible : ¬t.isReferenceType = true := by simp [noReference]
  cases v with
  | null => exact absurd h impossible
  | string text => exact absurd h.1 impossible
  | boxed type w => exact absurd h.1 impossible
  | bool b => exact .bool b h
  | number n => exact .number n h
  | empty => exact .empty h
  | present w =>
    obtain ⟨optional, e, element, content⟩ := h
    exact .present optional element content
  | object type identity payload =>
    rcases h with ⟨kind, same⟩ | ⟨reference, -⟩
    · exact .object identity payload kind same
    · exact absurd reference impossible

/-- **The values of an optional** are the empty one and those with a value of its element. -/
theorem wellTyped_optional_iff (h : t.isOptional = true) (he : u.elementOf? t = some e) :
    WellTyped u v t ↔ v = .empty ∨ ∃ w, v = .present w ∧ WellTyped u w e := by
  have kind := kind_of_isOptional h
  constructor
  · intro hv
    cases hv.direct (isReferenceType_of_kind kind) with
    | empty => exact .inl rfl
    | present _ element content =>
      cases he.symm.trans element
      exact .inr ⟨_, rfl, content⟩
    | bool _ other => cases kind.symm.trans other
    | object _ _ other => cases kind.symm.trans other
    | number _ numeric =>
      rw [TypeDescriptor.numericKind?, kind] at numeric
      cases numeric
  · rintro (rfl | ⟨w, rfl, hw⟩)
    · exact h
    · exact ⟨h, e, he, hw⟩

/-- The values of any other value type are plain. -/
theorem WellTyped.isPlain (value : t.isValueType = true) (plain : t.isOptional = false)
    (h : WellTyped u v t) : v.IsPlain := by
  have impossible : ¬t.isOptional = true := by simp [plain]
  cases h.direct (isReferenceType_of_isValueType value) with
  | empty optional | present optional => exact absurd optional impossible
  | bool | number | object => trivial

/-- **The values of a numeric type or an enumeration** are the numbers of its kind. -/
theorem wellTyped_numeric_iff {k : NumericKind} (h : t.numericKind? = some k) :
    WellTyped u v t ↔ ∃ n, v = .number n ∧ n.kind = k := by
  have numeric : t.kind.numericKind? = some k := h
  constructor
  · intro hv
    cases hv.direct (isReferenceType_of_numericKind? h) with
    | number n same => exact ⟨n, rfl, Option.some.inj (same.symm.trans h)⟩
    | empty optional | present optional =>
      rw [kind_of_isOptional optional] at numeric
      cases numeric
    | bool _ kind | object _ _ kind =>
      rw [kind] at numeric
      cases numeric
  · rintro ⟨n, rfl, rfl⟩
    exact h

namespace Value.IsPlain

theorem wrap (h : v.IsPlain) : v.wrap = .present v := by
  cases v <;> first | rfl | cases h

theorem box (h : v.IsPlain) (type : Token) : v.box type = .boxed type v := by
  cases v <;> first | rfl | cases h

end Value.IsPlain

/-! ## References -/

namespace Refers

theorem mem (hu : u.Layered) (h : Refers u v r) : r ∈ u := by
  cases h with
  | string _ => exact hu.framework .string
  | boxed found => exact (mem_of_find?_eq_some found).1
  | object found => exact (mem_of_find?_eq_some found).1

theorem runtimeType? (h : Refers u v r) : u.runtimeType? v = some r := by
  cases h with
  | string _ => rfl
  | boxed found => exact found
  | object found => exact found

theorem isNull (h : Refers u v r) : v.isNull = false := by cases h <;> rfl

end Refers

/-- What fits a type fits every type that it converts to implicitly. -/
theorem Fits.widen (hu : u.WellFormed) (hr : r ∈ u) (hs : s ∈ u) (ht : t ∈ u) (h : Fits u r s)
    (hst : isImplicitReference u s t = true) : Fits u r t := by
  have layered := hu.toLayered
  rcases h with rfl | h | h
  · exact .inr (.inl (classifyStandard_of_isImplicitReference layered hs ht hst))
  · have hrs := (classifyStandard_eq_implicitReference_iff layered hr hs).mp h
    rcases Widens.trans hu hr hs ht (.inr hrs) (.inr hst) with e | hrt
    · exact .inl e
    · exact .inr (.inl (classifyStandard_of_isImplicitReference layered hr ht hrt))
  · have hrs := (classifyStandard_eq_box_iff layered hr hs).mp h
    obtain ⟨value, -, boxes⟩ := (isBoxingTarget_iff layered hr hs).mp hrs
    obtain ⟨-, -, refT, -⟩ := (isImplicitReference_iff layered hs ht).mp hst
    have boxes := boxes.widen hu (unwrapOptional_mem layered hr) hs ht
      (isValueType_unwrapOptional layered hr value) hst
    exact .inr (.inr (classifyStandard_of_isBoxingTarget layered hr ht
      ((isBoxingTarget_iff layered hr ht).mpr ⟨value, refT, boxes⟩)))

/-- **A reference of a type is one of every type that it converts to implicitly.** -/
theorem WellTyped.widen (hu : u.WellFormed) (hs : s ∈ u) (ht : t ∈ u)
    (hst : isImplicitReference u s t = true) (h : WellTyped u v s) : WellTyped u v t := by
  obtain ⟨-, refS, refT, -⟩ := (isImplicitReference_iff hu.toLayered hs ht).mp hst
  refine (wellTyped_reference_iff refT).mpr (((wellTyped_reference_iff refS).mp h).imp_right ?_)
  rintro ⟨r, refers, fits⟩
  exact ⟨r, refers, fits.widen hu (refers.mem hu.toLayered) hs ht hst⟩

/-- Every reference fits the universal object. -/
theorem Refers.fits_object (hu : u.Layered) (h : Refers u v r) :
    Fits u r FrameworkType.object.descriptor := by
  have hr := h.mem hu
  have object := hu.framework .object
  have asReference : r.isReferenceType = true → Fits u r FrameworkType.object.descriptor := by
    intro ref
    by_cases e : r = FrameworkType.object.descriptor
    · exact .inl e
    · exact .inr (.inl (classifyStandard_of_isImplicitReference hu hr object
        ((isImplicitReference_iff hu hr object).mpr ⟨e, ref, rfl, .object rfl⟩)))
  cases h with
  | string _ => exact asReference rfl
  | object _ ref => exact asReference ref
  | boxed found value plain _ =>
    have target := (isBoxingTarget_iff hu hr object).mpr ⟨value, rfl, .object rfl⟩
    exact .inr (.inr (classifyStandard_of_isBoxingTarget hu hr object target))

end TypeConversion
