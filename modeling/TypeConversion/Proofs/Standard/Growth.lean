import TypeConversion.Program
import TypeConversion.Proofs.Standard.Rules

/-!
# Standard conversions of a growing universe

The standard conversion between two types stays the same as the universe grows, and so does its
program. New types never change what is between old ones.
-/

namespace TypeConversion

open Universe Reference

variable {u v : Universe} {s t : TypeDescriptor}

theorem implementsVariant_extends (hu : u.Layered) (le : u.Extends v) (hs : s ∈ u) (ht : t ∈ u) :
    implementsVariant v s t = implementsVariant u s t := by
  obtain ⟨rank, hr⟩ := hu.ranked
  exact Reference.implementsVariant_congr hu hr le hs ht fun a ha b hb _ =>
    isImplicitReference_extends hu le ha hb

theorem isBoxingTarget_extends (hu : u.Layered) (le : u.Extends v) (hs : s ∈ u) (ht : t ∈ u) :
    isBoxingTarget v s t = isBoxingTarget u s t := by
  have inner := unwrapOptional_mem hu hs
  simp only [isBoxingTarget, unwrapOptional_extends hu le hs,
    implementsVariant_extends hu le inner ht]

/-- **The standard conversion between two types stays the same** as the universe grows. -/
theorem classifyStandard_extends (hu : u.Layered) (le : u.Extends v) (hs : s ∈ u) (ht : t ∈ u) :
    classifyStandard v s t = classifyStandard u s t := by
  have value : classifyValue v s t = classifyValue u s t := by
    rw [classifyValue, classifyValue, unwrapOptional_extends hu le hs,
      unwrapOptional_extends hu le ht]
  have reference : classifyReference v s t = classifyReference u s t := by
    rw [classifyReference, classifyReference, isImplicitReference_extends hu le hs ht,
      isExplicitReference_extends hu le hs ht]
  rw [classifyStandard, classifyStandard, value, reference, isBoxingTarget_extends hu le hs ht,
    isBoxingTarget_extends hu le ht hs]

theorem convertsImplicitly_extends (hu : u.Layered) (le : u.Extends v) (hs : s ∈ u)
    (ht : t ∈ u) : convertsImplicitly v s t = convertsImplicitly u s t := by
  rw [convertsImplicitly, convertsImplicitly, classifyStandard_extends hu le hs ht]

theorem connect?_extends (hu : u.Layered) (le : u.Extends v) (hs : s ∈ u) (ht : t ∈ u) :
    HostRegistry.connect? v s t = HostRegistry.connect? u s t := by
  rw [HostRegistry.connect?, HostRegistry.connect?, classifyStandard_extends hu le hs ht]

/-! ## Programs -/

/-- The conversion applies no procedure. -/
def Conversion.IsStandard : Conversion → Prop
  | .userDefined _ _ _ _ _ _ | .host _ _ _ _ _ => False
  | .identity | .numeric _ _ | .enumeration _ | .nullable _ _ _ _ | .box | .unbox
  | .implicitReference | .explicitReference => True

/-- What is spliced in is a standard conversion between types of the universe. -/
def Splice.Over (u : Universe) : Splice → Prop
  | .absent => True
  | .along source target conversion => source ∈ u ∧ target ∈ u ∧ conversion.IsStandard

/-- The conversion splices in standard conversions between types of the universe only. -/
def Conversion.Over (u : Universe) : Conversion → Prop
  | .userDefined _ _ _ before after _ | .host _ _ _ before after => before.Over u ∧ after.Over u
  | .identity | .numeric _ _ | .enumeration _ | .nullable _ _ _ _ | .box | .unbox
  | .implicitReference | .explicitReference => True

theorem isStandard_of_classifyStandard (hu : u.Layered) (hs : s ∈ u) (ht : t ∈ u)
    {c : Conversion} (h : classifyStandard u s t = some c) : c.IsStandard := by
  cases standardRule_of_classifyStandard hu hs ht h with
  | content _ _ _ _ rule => cases rule <;> trivial
  | identity | nullable | box | unbox | implicitReference | explicitReference => trivial

theorem Splice.Connects.isOver {splice : Splice} (h : splice.Connects u s t) (hu : u.Layered)
    (hs : s ∈ u) (ht : t ∈ u) : splice.Over u := by
  cases h with
  | absent => trivial
  | along standard => exact ⟨hs, ht, isStandard_of_classifyStandard hu hs ht standard⟩

theorem Conversion.IsStandard.isOver {c : Conversion} (h : c.IsStandard) : c.Over u := by
  cases c <;> trivial

theorem Conversion.IsStandard.program_extends {c : Conversion} (h : c.IsStandard) (hu : u.Layered)
    (le : u.Extends v) (hs : s ∈ u) (ht : t ∈ u) : c.program v s t = c.program u s t := by
  cases c with
  | userDefined | host => cases h
  | box => rw [Conversion.program, Conversion.program, unwrapOptional_extends hu le hs]
  | unbox => rw [Conversion.program, Conversion.program, unwrapOptional_extends hu le ht]
  | identity | numeric | enumeration | nullable | implicitReference | explicitReference => rfl

theorem Splice.Over.program_extends {splice : Splice} (h : splice.Over u) (hu : u.Layered)
    (le : u.Extends v) : splice.program v = splice.program u := by
  cases splice with
  | absent => rfl
  | along source target conversion => exact h.2.2.program_extends hu le h.1 h.2.1

/-- The program of a conversion stays the same as the universe grows. -/
theorem Conversion.Over.program_extends {c : Conversion} (h : c.Over u) (hu : u.Layered)
    (le : u.Extends v) (hs : s ∈ u) (ht : t ∈ u) : c.program v s t = c.program u s t := by
  cases c with
  | userDefined | host =>
    rw [Conversion.program, Conversion.program, h.1.program_extends hu le,
      h.2.program_extends hu le]
  | box | unbox | identity | numeric | enumeration | nullable | implicitReference
  | explicitReference => exact Conversion.IsStandard.program_extends trivial hu le hs ht

end TypeConversion
