import TypeConversion.Proofs.Program.Outcomes

/-!
# Conversions of optionals

The standard conversions between two value types and their optionals are one conversion in four
forms.

* `classifyStandard_contents`: between types that can be inside optionals, a standard conversion is
  one of contents.
* `classifyStandard_wraps`, `classifyStandard_unwraps` and `classifyStandard_lifts`: the three other
  forms have it inside. The lifted form is the identity instead if the optionals are one type, which
  they are for the identity only.
* `FormsAgree`: the four forms exist together, and which of them are implicit together.
* `convertStandard?_nullable`: a form with a conversion of contents inside converts through it.
* `standard_forms`: the forms agree, and what they make of values, present values and the empty
  optional.
-/

namespace TypeConversion

open Universe

variable {u : Universe} {a b s t s' t' : TypeDescriptor} {c : Conversion} {mode : OverflowMode}
  {v : Value}

/-! ## Conversions between values -/

theorem classifyStandard_self (u : Universe) (s : TypeDescriptor) :
    classifyStandard u s s = some .identity := by
  rw [classifyStandard, if_pos rfl]

/-- No reference is a value. -/
theorem classifyReference_eq_none (hu : u.Layered) (hs : s ∈ u) (ht : t ∈ u)
    (value : s.isValueType = true) : classifyReference u s t = none := by
  have noReference : ¬s.isReferenceType = true := by simp [isReferenceType_of_isValueType value]
  have noImplicit : ¬isImplicitReference u s t = true := fun h =>
    noReference ((isImplicitReference_iff hu hs ht).mp h).2.1
  have noExplicit : ¬isExplicitReference u s t = true := fun h =>
    noReference (isReferenceType_of_isExplicitReference hu hs ht h).1
  rw [classifyReference, if_neg noImplicit, if_neg noExplicit]

/-- Two value types have no standard conversion but the one between values. -/
theorem classifyStandard_values (hu : u.Layered) (hs : s ∈ u) (ht : t ∈ u)
    (valueS : s.isValueType = true) (valueT : t.isValueType = true) (ne : s.token ≠ t.token) :
    classifyStandard u s t = classifyValue u s t := by
  rw [classifyStandard, if_neg ne]
  cases classifyValue u s t with
  | some c => rfl
  | none =>
    simp [isReferenceType_of_isValueType valueS, isReferenceType_of_isValueType valueT,
      classifyReference_eq_none hu hs ht valueS]

/-- **Between types that can be inside optionals**, a standard conversion is one of contents. -/
theorem classifyStandard_contents (hu : u.Layered) (hs : s ∈ u) (ht : t ∈ u)
    (contentS : s.IsContent) (contentT : t.IsContent) :
    classifyStandard u s t = classifyContent s t := by
  obtain ⟨valueS, plainS⟩ := contentS
  obtain ⟨valueT, plainT⟩ := contentT
  by_cases same : s.token = t.token
  · rw [classifyStandard, if_pos same, classifyContent, if_pos same]
  · rw [classifyStandard_values hu hs ht valueS valueT same, classifyValue,
      unwrapOptional_of_not_optional plainS, unwrapOptional_of_not_optional plainT]
    cases classifyContent s t <;> simp [valueS, valueT, plainS, plainT]

/-- Where one of two value types is an optional, their conversion has that of the contents
inside. -/
theorem classifyStandard_through (hu : u.Layered) (hs : s ∈ u) (ht : t ∈ u)
    (valueS : s.isValueType = true) (valueT : t.isValueType = true)
    (one : (s.isOptional || t.isOptional) = true) (ne : s ≠ t) :
    classifyStandard u s t = (classifyContent (u.unwrapOptional s) (u.unwrapOptional t)).map
      fun c => .nullable (c.isImplicit && t.isOptional) s.isOptional t.isOptional c := by
  have distinct : s.token ≠ t.token := fun e => ne (eq_of_token_eq hs ht e)
  rw [classifyStandard_values hu hs ht valueS valueT distinct, classifyValue]
  cases classifyContent (u.unwrapOptional s) (u.unwrapOptional t) with
  | none => simp [valueS, valueT]
  | some c =>
    have notBoth : ¬(!s.isOptional && !t.isOptional) = true := by
      rw [← Bool.not_or, one]
      exact Bool.false_ne_true
    simp only [valueS, valueT, Bool.not_true, Bool.or_self, Bool.false_eq_true, if_false,
      if_neg notBoth, Option.map_some]

/-- A form with a conversion of contents inside converts through it. -/
theorem convertStandard?_nullable {flag unwraps wraps : Bool} (content : c.IsContent)
    (found : classifyStandard u a b = some (.nullable flag unwraps wraps c)) :
    u.convertStandard? mode a b v = some (convertThrough b.fullName unwraps wraps
      (c.meaning ⟨u, mode, t.fullName⟩ s t) v) := by
  have inside : c.meaning ⟨u, mode, b.fullName⟩ (u.unwrapOptional a) (u.unwrapOptional b)
      = c.meaning ⟨u, mode, t.fullName⟩ s t := content.meaning_eq rfl
  rw [convertStandard?_of_classifyStandard found, Conversion.meaning, inside]

/-! ## The four forms -/

/-- The four conversions between two value types and their optionals exist together. They are
implicit together, but for the one that takes a value out of its optional. -/
structure FormsAgree (u : Universe) (s t s' t' : TypeDescriptor) : Prop where
  wraps_isSome : (classifyStandard u s t').isSome = (classifyStandard u s t).isSome
  lifts_isSome : (classifyStandard u s' t').isSome = (classifyStandard u s t).isSome
  unwraps_isSome : (classifyStandard u s' t).isSome = (classifyStandard u s t).isSome
  wraps_isImplicit : (classifyStandard u s t').any Conversion.isImplicit
    = (classifyStandard u s t).any Conversion.isImplicit
  lifts_isImplicit : (classifyStandard u s' t').any Conversion.isImplicit
    = (classifyStandard u s t).any Conversion.isImplicit
  unwraps_explicit : (classifyStandard u s' t).any Conversion.isImplicit = false

section Forms

variable (hu : u.Layered) (hs : s ∈ u) (ht : t ∈ u) (hs' : s' ∈ u) (ht' : t' ∈ u)
  (os : IsOptionalIn u s' s) (ot : IsOptionalIn u t' t)

include hu hs ht os ot

theorem classifyStandard_contents_of_optionals :
    classifyStandard u s t = classifyContent s t :=
  classifyStandard_contents hu hs ht os.content ot.content

include ht' in
/-- The conversion of contents, whose result is wrapped. -/
theorem classifyStandard_wraps : classifyStandard u s t'
    = (classifyStandard u s t).map fun c => .nullable c.isImplicit false true c := by
  have ne : s ≠ t' := fun e => Bool.false_ne_true (os.plain.symm.trans (e ▸ ot.isOptional))
  rw [classifyStandard_contents_of_optionals hu hs ht os ot,
    classifyStandard_through hu hs ht' os.value (isValueType_of_isOptional ot.isOptional)
      (by rw [ot.isOptional, Bool.or_true]) ne,
    unwrapOptional_of_not_optional os.plain, ot.unwrapOptional_eq, os.plain, ot.isOptional]
  simp only [Bool.and_true]

include hs' in
/-- The conversion of contents after taking the value out of its optional. -/
theorem classifyStandard_unwraps : classifyStandard u s' t
    = (classifyStandard u s t).map fun c => .nullable false true false c := by
  have ne : s' ≠ t := fun e => Bool.false_ne_true (ot.plain.symm.trans (e ▸ os.isOptional))
  rw [classifyStandard_contents_of_optionals hu hs ht os ot,
    classifyStandard_through hu hs' ht (isValueType_of_isOptional os.isOptional) ot.value
      (by rw [os.isOptional, Bool.true_or]) ne,
    unwrapOptional_of_not_optional ot.plain, os.unwrapOptional_eq, os.isOptional, ot.plain]
  simp only [Bool.and_false]

include hs' ht' in
/-- The conversion of contents, lifted over optionals. -/
theorem classifyStandard_lifts (ne : s' ≠ t') : classifyStandard u s' t'
    = (classifyStandard u s t).map fun c => .nullable c.isImplicit true true c := by
  rw [classifyStandard_contents_of_optionals hu hs ht os ot,
    classifyStandard_through hu hs' ht' (isValueType_of_isOptional os.isOptional)
      (isValueType_of_isOptional ot.isOptional) (by rw [os.isOptional, Bool.true_or]) ne,
    os.unwrapOptional_eq, ot.unwrapOptional_eq, os.isOptional, ot.isOptional]
  simp only [Bool.and_true]

include hs' ht' in
/-- **The four forms agree.** -/
theorem formsAgree : FormsAgree u s t s' t' := by
  have wraps := classifyStandard_wraps hu hs ht ht' os ot
  have unwraps := classifyStandard_unwraps hu hs ht hs' os ot
  have lifts : (classifyStandard u s' t').isSome = (classifyStandard u s t).isSome ∧
      (classifyStandard u s' t').any Conversion.isImplicit
        = (classifyStandard u s t).any Conversion.isImplicit := by
    by_cases same : s' = t'
    · obtain rfl : s = t := (same ▸ os).eq ot
      rw [same, classifyStandard_self, classifyStandard_self]
      exact ⟨rfl, rfl⟩
    · rw [classifyStandard_lifts hu hs ht hs' ht' os ot same]
      cases classifyStandard u s t <;> exact ⟨rfl, rfl⟩
  constructor
  · rw [wraps, Option.isSome_map]
  · exact lifts.1
  · rw [unwraps, Option.isSome_map]
  · rw [wraps]
    cases classifyStandard u s t <;> rfl
  · exact lifts.2
  · rw [unwraps]
    cases classifyStandard u s t <;> rfl

include hs' ht' in
/-- The lifted form converts through optionals at both ends, also where it is the identity. -/
theorem convertStandard?_lifts (content : c.IsContent) (found : classifyStandard u s t = some c)
    (typed : WellTyped u v s') : u.convertStandard? mode s' t' v = some
      (convertThrough t'.fullName true true (c.meaning ⟨u, mode, t.fullName⟩ s t) v) := by
  by_cases same : s' = t'
  · subst same
    obtain rfl := os.eq ot
    obtain rfl : Conversion.identity = c :=
      Option.some.inj ((classifyStandard_self u s).symm.trans found)
    rw [convertStandard?_of_classifyStandard (classifyStandard_self u s'), Conversion.meaning]
    obtain rfl | ⟨w, rfl, plain⟩ := os.wellTyped_iff.mp typed
    · rfl
    · have wrapped := (plain.isPlain os.value os.plain).wrap
      simp only [convertThrough, Value.content?, Conversion.meaning, Except.map, wrapped]
  · have lifted : classifyStandard u s' t' = some (.nullable c.isImplicit true true c) := by
      rw [classifyStandard_lifts hu hs ht hs' ht' os ot same, found]
      rfl
    exact convertStandard?_nullable content lifted

end Forms

/-- **Conversions of values lift over optionals.** The standard conversions between two value types
and their optionals exist together, and all but the one out of an optional are implicit together.
With `r` the outcome for a value, converting to the optional gives what `r` gives as a present value
or its error, whether the value is present in an optional or not, and converting a present value out
of its optional gives `r`. The empty optional stays empty, and nothing can be taken out of it. -/
theorem standard_forms (hu : u.Built) (hs : s ∈ u) (ht : t ∈ u) (hs' : s' ∈ u) (ht' : t' ∈ u)
    (os : IsOptionalIn u s' s) (ot : IsOptionalIn u t' t) :
    FormsAgree u s t s' t' ∧
      ((classifyStandard u s t).isSome = true → ∀ mode,
        u.convertStandard? mode s' t' .empty = some (.ok .empty) ∧
        u.convertStandard? mode s' t .empty = some (.error (.emptyOptional t.fullName)) ∧
        ∀ v, WellTyped u v s → ∃ r, u.convertStandard? mode s t v = some r ∧
          u.convertStandard? mode s t' v = some (r.map .present) ∧
          u.convertStandard? mode s' t' (.present v) = some (r.map .present) ∧
          u.convertStandard? mode s' t (.present v) = some r) := by
  have wellFormed := hu.wellFormed
  have layered := wellFormed.toLayered
  refine ⟨formsAgree layered hs ht hs' ht' os ot, fun converts mode => ?_⟩
  obtain ⟨c, found⟩ := Option.isSome_iff_exists.mp converts
  have content : c.IsContent := by
    rw [classifyStandard_contents_of_optionals layered hs ht os ot] at found
    exact (contentRule_of_classifyContent found).isContent
  have wraps : classifyStandard u s t' = some (.nullable c.isImplicit false true c) := by
    rw [classifyStandard_wraps layered hs ht ht' os ot, found]
    rfl
  have unwraps : classifyStandard u s' t = some (.nullable false true false c) := by
    rw [classifyStandard_unwraps layered hs ht hs' os ot, found]
    rfl
  have lifts : ∀ {w}, WellTyped u w s' → u.convertStandard? mode s' t' w = _ :=
    convertStandard?_lifts layered hs ht hs' ht' os ot content found
  refine ⟨?_, ?_, fun v typed => ?_⟩
  · exact lifts (os.wellTyped_iff.mpr (.inl rfl))
  · exact convertStandard?_nullable (s := s) (t := t) content unwraps
  · have yields : Yields u none t (c.meaning ⟨u, mode, t.fullName⟩ s t v) :=
      yields_of_classifyStandard (x := ⟨u, mode, t.fullName⟩) wellFormed hs ht found typed
    have present := yields.map_wrap ot.content
    refine ⟨_, convertStandard?_of_classifyStandard found, ?_, ?_, ?_⟩
    · rw [convertStandard?_nullable (s := s) (t := t) content wraps, convertThrough, present]
    · rw [lifts (os.wellTyped_iff.mpr (.inr ⟨v, rfl, typed⟩))]
      exact congrArg some present
    · exact convertStandard?_nullable content unwraps

/-- Three hundred overflows a byte in an optional as it does by itself. -/
theorem standard_forms_overflow : ∃ (u : Universe) (s t s' t' : TypeDescriptor) (v : Value)
    (e : Error), u.Built ∧ IsOptionalIn u s' s ∧ IsOptionalIn u t' t ∧
      u.convertStandard? .checked s t v = some (.error e) ∧
      u.convertStandard? .checked s' t' (.present v) = some (.error e) ∧
      u.convertStandard? .checked s' t' .empty = some (.ok .empty) := by
  let s := (NumericKind.integer .int32).descriptor
  let t := (NumericKind.integer .byte).descriptor
  let v : Value := .number (.integer ⟨.int32, 300, by decide, by decide⟩)
  obtain ⟨s', u₁, madeS⟩ : ∃ a u, Universe.initial.optionalOf s = .ok (a, u) := ⟨_, _, rfl⟩
  obtain ⟨t', u, madeT⟩ : ∃ a u, u₁.optionalOf t = .ok (a, u) := by
    cases madeS
    exact ⟨_, _, rfl⟩
  obtain ⟨built₁, -, -⟩ := Built.optionalOf .initial (s := s) (by decide) madeS (by
    cases madeS
    constructor <;> decide)
  obtain ⟨built, ht', ot⟩ := built₁.optionalOf (built₁.wellFormed.numeric _) madeT (by
    cases madeS
    cases madeT
    constructor <;> decide)
  have hs : s ∈ u := built.wellFormed.numeric _
  have ht : t ∈ u := built.wellFormed.numeric _
  have hs' : s' ∈ u := by
    cases madeS
    cases madeT
    decide
  have os : IsOptionalIn u s' s := by
    cases madeS
    cases madeT
    constructor <;> decide
  have found : classifyStandard u s t = some (.numeric false ⟨.integer .int32, .integer .byte⟩) :=
    classifyStandard_contents_of_optionals built.wellFormed.toLayered hs ht os ot
  have overflow : u.convertStandard? .checked s t v
      = some (.error (.overflow (.integer .int32) (.integer .byte))) := by
    rw [convertStandard?_of_classifyStandard found]
    rfl
  obtain ⟨-, forms⟩ := standard_forms built hs ht hs' ht' os ot
  obtain ⟨empty, -, present⟩ := forms (by rw [found]; rfl) .checked
  obtain ⟨r, outcome, -, lifted, -⟩ := present v rfl
  obtain rfl := Option.some.inj (overflow.symm.trans outcome)
  exact ⟨u, s, t, s', t', v, _, built, os, ot, overflow, lifted, empty⟩

end TypeConversion
