import TypeConversion.Proofs.Program.Meaning

/-!
# Outcomes of standard conversions

* `Universe.convertStandard?`: what the standard conversion between two types makes of a value.
* `convertStandard?_of_classifyStandard`: it is what the conversion means for the two types.
* `yields_of_classifyStandard`: it is a value of the target, or a reason to fail.
* `Conversion.IsContent.meaning_eq`: the meaning of a conversion of contents depends on the mode of
  casts, and neither on the types that it is for nor on the universe.
* `TypeDescriptor.IsContent`: the type can be inside an optional.
* `Yields.map_wrap`: an outcome of such a type is no optional, so wrapping it makes it present.
-/

namespace TypeConversion

open Universe

/-- What the standard conversion from one type to another makes of a value, if there is one. -/
def Universe.convertStandard? (u : Universe) (mode : OverflowMode) (source target : TypeDescriptor)
    (v : Value) : Option (Except Error Value) :=
  (classifyStandard u source target).map fun conversion =>
    (Converter.ofPlan u ⟨source, target, conversion⟩ mode).convert u v

/-- The type can be inside an optional: a value type that is no optional. -/
structure TypeDescriptor.IsContent (t : TypeDescriptor) : Prop where
  value : t.isValueType = true
  plain : t.isOptional = false

variable {u : Universe} {s t s' t' : TypeDescriptor} {c : Conversion} {mode : OverflowMode}
  {v : Value} {x y : Execution}

theorem convertStandard?_of_classifyStandard (found : classifyStandard u s t = some c) :
    u.convertStandard? mode s t v = some (c.meaning ⟨u, mode, t.fullName⟩ s t v) := by
  rw [convertStandard?, found]
  exact congrArg some (Conversion.computes_program (x := ⟨u, mode, t.fullName⟩) s t c
    (isRegular_of_classifyStandard found) v)

theorem IsOptionalIn.content (h : IsOptionalIn u t s) : s.IsContent := ⟨h.value, h.plain⟩

/-- A standard conversion gives a value of its target, or a reason to fail. -/
theorem yields_of_classifyStandard {procedure : Option Procedure} (hu : x.types.WellFormed)
    (hs : s ∈ x.types) (ht : t ∈ x.types) (found : classifyStandard x.types s t = some c)
    (typed : WellTyped x.types v s) : Yields x.types procedure t (c.meaning x s t v) := by
  rw [← Conversion.computes_program s t c (isRegular_of_classifyStandard found)]
  exact sound_of_classifyStandard hu hs ht found v typed

/-- The meaning of a conversion of contents depends on nothing but the mode of casts. -/
theorem Conversion.IsContent.meaning_eq (h : c.IsContent) (same : x.overflow = y.overflow) :
    c.meaning x s t = c.meaning y s' t' := by
  funext v
  cases c with
  | identity | numeric | enumeration => simp only [meaning, same]
  | nullable | box | unbox | implicitReference | explicitReference | userDefined | host => cases h

/-- Wrapping an outcome of a type that can be inside an optional makes it present. -/
theorem Yields.map_wrap {procedure : Option Procedure} {outcome : Except Error Value}
    (h : Yields u procedure t outcome) (content : t.IsContent) :
    outcome.map Value.wrap = outcome.map .present := by
  cases outcome with
  | ok w => exact congrArg Except.ok (WellTyped.isPlain content.value content.plain h).wrap
  | error e => rfl

end TypeConversion
