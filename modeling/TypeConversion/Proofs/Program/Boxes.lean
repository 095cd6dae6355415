import TypeConversion.Proofs.Program.Outcomes
import TypeConversion.Proofs.Standard.Return

/-!
# Values in boxes

A boxed value comes out of its box as it went in, whatever types the reference to it has had in
between.

* `Travels u s v t w`: standard conversions of references lead from `v`, a reference of type `s`, to
  `w`, one of type `t`.
* `Carries u s v t w`: the value `v` of the type `s` is boxed, and travels on to be `w`.
* `Travels.eq`: a reference stays the same, by induction on the conversions on the way.
* `unboxValue_box`: what is boxed under a type comes out as a value of the type or of its optional.
* `unbox_of_carries`: boxing, travelling and unboxing together change nothing.
-/

namespace TypeConversion

open Universe Reference

variable {u : Universe} {o s t : TypeDescriptor} {c : Conversion} {mode : OverflowMode}
  {v w x : Value}

/-! ## References on their way -/

/-- The conversion is the identity or one between references. -/
def Conversion.KeepsReference : Conversion → Prop
  | .identity | .implicitReference | .explicitReference => True
  | .numeric _ _ | .enumeration _ | .nullable _ _ _ _ | .box | .unbox
  | .userDefined _ _ _ _ _ _ | .host _ _ _ _ _ => False

/-- Standard conversions of references lead from one value to another, each of them in some mode. -/
inductive Travels (u : Universe) : TypeDescriptor → Value → TypeDescriptor → Value → Prop
  | arrived (s : TypeDescriptor) (v : Value) : Travels u s v s v
  | next {r s t : TypeDescriptor} {v w x : Value} {c : Conversion} (mode : OverflowMode)
      (found : classifyStandard u s r = some c) (reference : c.KeepsReference)
      (converted : u.convertStandard? mode s r v = some (.ok w)) (rest : Travels u r w t x) :
      Travels u s v t x

/-- A value is boxed as a reference, which is then converted to further types. -/
inductive Carries (u : Universe) (s : TypeDescriptor) (v : Value) (t : TypeDescriptor)
    (x : Value) : Prop
  | box {r : TypeDescriptor} {w : Value} (mode : OverflowMode)
      (found : classifyStandard u s r = some .box)
      (converted : u.convertStandard? mode s r v = some (.ok w)) (rest : Travels u r w t x)

/-- References that convert by the explicit rules only do so by a test. -/
theorem classifyStandard_of_isExplicitReference (hu : u.Layered) (hs : s ∈ u) (ht : t ∈ u)
    (implicit : isImplicitReference u s t = false) (explicit : isExplicitReference u s t = true) :
    classifyStandard u s t = some .explicitReference := by
  obtain ⟨refS, refT⟩ := isReferenceType_of_isExplicitReference hu hs ht explicit
  have distinct : s.token ≠ t.token := by
    rw [isExplicitReference_eq hu hs ht, explicitRule] at explicit
    intro same
    simp [distinctReferences, same] at explicit
  rw [classifyStandard, if_neg distinct, classifyValue_eq_none (.inl refS)]
  simp [isValueType_of_isReferenceType refS, isValueType_of_isReferenceType refT,
    classifyReference, implicit, explicit]

/-- A test of a reference gives the reference, if it gives anything. -/
theorem downcastValue_eq (h : u.downcastValue t v = .ok w) : w = v := by
  rw [downcastValue] at h
  split at h
  · cases h
    rfl
  split at h
  · cases h
  split at h <;> cases h
  rfl

/-- A conversion of references keeps the reference. -/
theorem Conversion.KeepsReference.eq (reference : c.KeepsReference)
    (found : classifyStandard u s t = some c)
    (converted : u.convertStandard? mode s t v = some (.ok w)) : w = v := by
  rw [convertStandard?_of_classifyStandard found, Option.some.injEq] at converted
  cases c with
  | identity | implicitReference =>
    rw [Conversion.meaning] at converted
    cases converted
    rfl
  | explicitReference =>
    rw [Conversion.meaning] at converted
    exact downcastValue_eq converted
  | numeric | enumeration | nullable | box | unbox | userDefined | host => cases reference

/-- **A reference stays the same on its way.** -/
theorem Travels.eq (h : Travels u s v t x) : x = v := by
  induction h with
  | arrived => rfl
  | next _ found reference converted _ ih => exact ih.trans (reference.eq found converted)

/-- What is carried is the box that the value was put into. -/
theorem Carries.eq_box (h : Carries u s v t x) : x = v.box (u.unwrapOptional s).token := by
  cases h with
  | box _ found converted rest =>
    rw [convertStandard?_of_classifyStandard found, Conversion.meaning] at converted
    cases converted
    exact rest.eq

/-! ## Boxes -/

/-- A type can be unboxed as itself. -/
theorem unboxesTo_self (u : Universe) (t : TypeDescriptor) : u.unboxesTo t.token t = true := by
  rw [unboxesTo, beq_self_eq_true, Bool.true_or]

/-- What was boxed under a type is taken out as one of its values. -/
theorem unboxValue_boxed (u : Universe) (a : TypeDescriptor) (nullable : Bool) (w : Value) :
    u.unboxValue a nullable (.boxed a.token w) = .ok (if nullable then .present w else w) := by
  rw [unboxValue, unboxContent, if_pos (unboxesTo_self u a)]

/-- **A value is taken out of its box as it was.** Of an optional, the content is in the box, or
there is none. -/
theorem unboxValue_box (hu : u.Layered) (hs : s ∈ u) (value : s.isValueType = true)
    (typed : WellTyped u v s) :
    u.unboxValue (u.unwrapOptional s) s.isOptional (v.box (u.unwrapOptional s).token) = .ok v := by
  cases optional : s.isOptional with
  | true =>
    have content := isOptionalIn_unwrapOptional hu hs optional
    rcases content.wellTyped_iff.mp typed with rfl | ⟨w, rfl, -⟩
    · rfl
    · exact unboxValue_boxed u _ true w
  | false =>
    rw [(typed.isPlain value optional).box]
    exact unboxValue_boxed u _ false v

theorem convertStandard?_unbox (found : classifyStandard u t s = some .unbox) :
    u.convertStandard? mode t s x
      = some (u.unboxValue (u.unwrapOptional s) s.isOptional x) := by
  rw [convertStandard?_of_classifyStandard found, Conversion.meaning]

/-- What is unboxed as a type can be boxed from it. -/
theorem isBoxingTarget_of_unbox (hu : u.Layered) (hs : s ∈ u) (ht : t ∈ u)
    (found : classifyStandard u t s = some .unbox) : isBoxingTarget u s t = true := by
  cases standardRule_of_classifyStandard hu ht hs found with
  | content _ _ _ _ rule => cases rule
  | unbox _ _ boxes => exact boxes

/-- What is unboxed as a type is unboxed as its optional. -/
theorem classifyStandard_unbox_optional (hu : u.Layered) (hs : s ∈ u) (ht : t ∈ u) (ho : o ∈ u)
    (optional : IsOptionalIn u o s) (found : classifyStandard u t s = some .unbox) :
    classifyStandard u t o = some .unbox := by
  obtain ⟨-, reference, boxes⟩ :=
    (isBoxingTarget_iff hu hs ht).mp (isBoxingTarget_of_unbox hu hs ht found)
  refine classifyStandard_of_isBoxingTarget_back hu ho ht ((isBoxingTarget_iff hu ho ht).mpr ?_)
  rw [unwrapOptional_of_not_optional optional.plain] at boxes
  rw [optional.unwrapOptional_eq]
  exact ⟨isValueType_of_isOptional optional.isOptional, reference, boxes⟩

/-- **A boxed value survives any way of references.** A value of a value type comes out of its box
as it went in, the empty optional included, whatever conversions of references succeeded in between.
A value boxed as its own type comes out as a present one of the optional, and a present value of the
optional comes out as its content. -/
theorem unbox_of_carries (hu : u.Built) (hs : s ∈ u) (ht : t ∈ u) (typed : WellTyped u v s)
    (found : classifyStandard u t s = some .unbox) (mode : OverflowMode) :
    (∀ x, Carries u s v t x → u.convertStandard? mode t s x = some (.ok v)) ∧
      ∀ o ∈ u, IsOptionalIn u o s → classifyStandard u t o = some .unbox ∧ ∀ x,
        (Carries u s v t x → u.convertStandard? mode t o x = some (.ok (.present v))) ∧
          (Carries u o (.present v) t x → u.convertStandard? mode t s x = some (.ok v)) := by
  have layered := hu.wellFormed.toLayered
  refine ⟨fun x carried => ?_, fun o ho optional => ?_⟩
  · obtain ⟨value, -⟩ :=
      (isBoxingTarget_iff layered hs ht).mp (isBoxingTarget_of_unbox layered hs ht found)
    rw [convertStandard?_unbox found, carried.eq_box, unboxValue_box layered hs value typed]
  have unwrapped : u.unwrapOptional s = s := unwrapOptional_of_not_optional optional.plain
  have foundO := classifyStandard_unbox_optional layered hs ht ho optional found
  refine ⟨foundO, fun x => ⟨fun carried => ?_, fun carried => ?_⟩⟩
  · rw [convertStandard?_unbox foundO, carried.eq_box, unwrapped, optional.unwrapOptional_eq,
      optional.isOptional, (typed.isPlain optional.value optional.plain).box]
    exact congrArg some (unboxValue_boxed u s true v)
  · rw [convertStandard?_unbox found, carried.eq_box, unwrapped, optional.unwrapOptional_eq,
      optional.plain]
    exact congrArg some (unboxValue_boxed u s false v)

/-- Seven is boxed as an object, tested for being comparable and taken out again, as a number or as
an optional number. -/
theorem unbox_of_carries_seven : ∃ (u : Universe) (s o t : TypeDescriptor) (v x : Value), u.Built ∧
    IsOptionalIn u o s ∧ Carries u s v t x ∧ Carries u o (.present v) t x ∧
      u.convertStandard? .checked t s x = some (.ok v) ∧
      u.convertStandard? .checked t o x = some (.ok (.present v)) := by
  let s := (NumericKind.integer .int32).descriptor
  let t := FrameworkType.comparable.descriptor
  let object := FrameworkType.object.descriptor
  let v : Value := .number (.integer ⟨.int32, 7, by decide, by decide⟩)
  obtain ⟨o, u, made⟩ : ∃ o u, Universe.initial.optionalOf s = .ok (o, u) := ⟨_, _, rfl⟩
  obtain ⟨built, ho, optional⟩ := Built.optionalOf .initial (s := s) (by decide) made (by
    cases made
    constructor <;> decide)
  have layered := built.wellFormed.toLayered
  have hs : s ∈ u := built.wellFormed.numeric _
  have hobject : object ∈ u := built.wellFormed.framework _
  have ht : t ∈ u := built.wellFormed.framework _
  have boxes : isBoxingTarget u s object = true ∧ isBoxingTarget u o object = true
      ∧ isBoxingTarget u s t = true := by
    cases made
    decide +kernel
  have explicit : isImplicitReference u object t = false
      ∧ isExplicitReference u object t = true := by
    cases made
    decide +kernel
  have test := classifyStandard_of_isExplicitReference layered hobject ht explicit.1 explicit.2
  obtain ⟨boxS, boxO, boxT⟩ := boxes
  let x : Value := .boxed s.token v
  have passes : u.downcastValue t x = .ok x := by
    have instanceOf : u.isInstanceOf s t = true := by
      rw [isInstanceOf, classifyStandard_of_isBoxingTarget layered hs ht boxT, Bool.or_true]
    have runtime : u.runtimeType? x = some s := hs
    rw [downcastValue, runtime]
    simp only [instanceOf]
    rfl
  have travels : Travels u object x t x := by
    refine .next .checked test trivial ?_ (.arrived t x)
    rw [convertStandard?_of_classifyStandard test, Conversion.meaning, passes]
  have boxed : ∀ {a w}, a ∈ u → isBoxingTarget u a object = true →
      w.box (u.unwrapOptional a).token = x → Carries u a w t x := by
    intro a w ha boxes same
    have box := classifyStandard_of_isBoxingTarget layered ha hobject boxes
    refine .box .checked box ?_ travels
    rw [convertStandard?_of_classifyStandard box, Conversion.meaning, same]
  have carried : Carries u s v t x := boxed hs boxS rfl
  have carriedO : Carries u o (.present v) t x := by
    refine boxed ho boxO ?_
    rw [optional.unwrapOptional_eq]
    rfl
  have found := classifyStandard_of_isBoxingTarget_back layered hs ht boxT
  obtain ⟨back, forOptional⟩ := unbox_of_carries built hs ht (v := v) rfl found .checked
  obtain ⟨-, asOptional⟩ := forOptional o ho optional
  exact ⟨u, s, o, t, v, x, built, optional, carried, carriedO, back x carried,
    (asOptional x).1 carried⟩

end TypeConversion
