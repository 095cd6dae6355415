import TypeConversion.Proofs.Standard.Growth
import TypeConversion.Proofs.UserDefined.Choice

/-!
# User-defined conversions of a growing universe

A request is resolved in the same way as the universe grows, until an operator is declared
(`resolveUserDefined_extends`). A type that is added changes neither the operators that a request
can use nor how they relate to it.
-/

namespace TypeConversion

open Universe

variable {u v : Universe} {s t : TypeDescriptor} {o : Operator}

theorem relate?_extends (hu : u.Layered) (le : u.Extends v) (hs : s ∈ u) (ht : t ∈ u) :
    relate? v s t = relate? u s t := by
  rw [relate?, relate?, classifyStandard_extends hu le hs ht]

/-- The operators that a request can use stay the same while none is declared. -/
theorem operatorPool_extends (hu : u.Layered) (le : u.Extends v) (same : v.operators = u.operators)
    (hs : s ∈ u) (ht : t ∈ u) : v.operatorPool s t = u.operatorPool s t := by
  have hs' := unwrapOptional_mem hu hs
  have ht' := unwrapOptional_mem hu ht
  rw [operatorPool, operatorPool, unwrapOptional_extends hu le hs, unwrapOptional_extends hu le ht,
    visibleOperators_extends hu le same hs', visibleOperators_extends hu le same ht']

/-- An operator over known types applies to a request in the same way as the universe grows. -/
theorem ofOperator?_extends (hu : u.WellFormed) (le : u.Extends v) (hs : s ∈ u)
    (ht : t ∈ u) (ho : o ∈ u.operators) :
    Candidate.ofOperator? v s t o = Candidate.ofOperator? u s t o := by
  have layered := hu.toLayered
  obtain ⟨-, input, output⟩ := hu.operands o ho
  obtain ⟨i, hi⟩ := Option.isSome_iff_exists.mp input
  obtain ⟨j, hj⟩ := Option.isSome_iff_exists.mp output
  obtain ⟨him, ti⟩ := mem_of_find?_eq_some hi
  obtain ⟨hjm, tj⟩ := mem_of_find?_eq_some hj
  have hi' : v.find? o.input = some i := (find?_extends le ⟨i, him, ti⟩).trans hi
  have hj' : v.find? o.output = some j := (find?_extends le ⟨j, hjm, tj⟩).trans hj
  have toInput : ∀ c : Bool, relate? v (if c then u.unwrapOptional s else s) i
      = relate? u (if c then u.unwrapOptional s else s) i := by
    intro c
    cases c with
    | true => exact relate?_extends layered le (unwrapOptional_mem layered hs) him
    | false => exact relate?_extends layered le hs him
  have fromOutput : ∀ c : Bool, relate? v j (if c then u.unwrapOptional t else t)
      = relate? u j (if c then u.unwrapOptional t else t) := by
    intro c
    cases c with
    | true => exact relate?_extends layered le hjm (unwrapOptional_mem layered ht)
    | false => exact relate?_extends layered le hjm ht
  simp only [Candidate.ofOperator?, hi, hj, hi', hj', unwrapOptional_extends layered le hs,
    unwrapOptional_extends layered le ht, toInput, fromOutput, Option.bind_eq_bind,
    Option.bind_some]

namespace Resolution

/-- Only the comparisons between types of the candidates count for the chosen type. -/
theorem chosenType?_congr {closeness : Candidate → Closeness} {lifted : Candidate → Bool}
    {type : Candidate → TypeDescriptor} {related related' : TypeDescriptor → TypeDescriptor → Bool}
    {candidates : List Candidate} (known : ∀ c ∈ candidates, type c ∈ u)
    (same : ∀ y ∈ u, ∀ z ∈ u, related' y z = related y z) :
    chosenType? closeness lifted type related' candidates
      = chosenType? closeness lifted type related candidates := by
  have filtered : ∀ {l : List Candidate} {r r' : TypeDescriptor → TypeDescriptor → Bool},
      (∀ c ∈ l, type c ∈ u) → (∀ y ∈ u, ∀ z ∈ u, r' y z = r y z) →
      ((typesOf type l).filter fun y => (typesOf type l).all fun z => r' y z)
        = (typesOf type l).filter fun y => (typesOf type l).all fun z => r y z := by
    intro l r r' hl hr
    have mem : ∀ y ∈ typesOf type l, y ∈ u := by
      intro y hy
      obtain ⟨c, hc, rfl⟩ := (mem_typesOf_iff hl).mp hy
      exact hl c hc
    refine List.filter_congr fun y hy => ?_
    rw [Bool.eq_iff_iff, List.all_eq_true, List.all_eq_true]
    exact forall₂_congr fun z hz => by rw [hr y (mem y hy) z (mem z hz)]
  have implicit : ∀ c ∈ candidates.filter fun c => closeness c == .implicit, type c ∈ u :=
    fun c hc => known c (List.mem_filter.mp hc).1
  simp only [chosenType?, filtered implicit same,
    filtered known fun y hy z hz => same z hz y hy]

theorem choose_extends (hu : u.Layered) (le : u.Extends v) {candidates : List Candidate}
    (known : ∀ c ∈ candidates, c.input ∈ u ∧ c.output ∈ u) :
    choose v candidates = choose u candidates := by
  have input : inputType? v candidates = inputType? u candidates := by
    rw [inputType?_eq, inputType?_eq]
    exact chosenType?_congr (fun c hc => (known c hc).1) fun y hy z hz =>
      convertsImplicitly_extends hu le hy hz
  have output : outputType? v candidates = outputType? u candidates := by
    rw [outputType?_eq, outputType?_eq]
    exact chosenType?_congr (fun c hc => (known c hc).2) fun y hy z hz =>
      convertsImplicitly_extends hu le hz hy
  rw [choose, choose, input, output]

end Resolution

/-- **A request is resolved in the same way** as the universe grows, while no operator is
declared. -/
theorem resolveUserDefined_extends (hu : u.WellFormed) (le : u.Extends v)
    (same : v.operators = u.operators) (hs : s ∈ u) (ht : t ∈ u) :
    v.resolveUserDefined s t = u.resolveUserDefined s t := by
  have layered := hu.toLayered
  have candidates : Resolution.candidates v (u.operatorPool s t) s t
      = Resolution.candidates u (u.operatorPool s t) s t :=
    List.filterMap_congr fun o ho =>
      ofOperator?_extends hu le hs ht (mem_operators_of_mem_operatorPool ho)
  rw [resolveUserDefined, resolveUserDefined, operatorPool_extends layered le same hs ht,
    Resolution.ofPool, Resolution.ofPool, candidates]
  refine Resolution.choose_extends layered le fun c hc => ?_
  obtain ⟨-, fits⟩ := Resolution.mem_candidates_iff.mp hc
  exact ⟨fits.input_mem, fits.output_mem⟩

end TypeConversion
