import TypeConversion.Proofs.UserDefined.Choice

/-!
# Resolution finds what it should

* `Resolution.Meets u s t r`: the outcome `r` is the one that the request should have. The three
  outcomes exclude one another.
* `meets_resolveUserDefined`: the resolution in a built universe has the outcome that it should
  have.
* `resolve_specification`: the same for a resolution by way of a cache, outcome by outcome.
-/

namespace TypeConversion

open Universe

variable {u : Universe} {s t x y : TypeDescriptor} {c d : Candidate}

/-- The outcome that a request should have: nothing if no operator applies, and the operator with
the chosen types if there is exactly one. Else the request is ambiguous, between the operators with
the chosen types if there are some, and else between all that apply. -/
def Resolution.Meets (u : Universe) (s t : TypeDescriptor) : Resolution → Prop
  | .notFound => ∀ c : Candidate, ¬c.Applies u s t
  | .found conversion => ∃ c, IsOnly (HasChosenTypes u s t) c ∧ conversion = c.conversion
  | .ambiguous operators =>
    (∃ c : Candidate, c.Applies u s t) ∧ (¬∃ c, IsOnly (HasChosenTypes u s t) c) ∧
      operators.Nodup ∧ ∀ o, o ∈ operators ↔ ∃ c : Candidate, c.operator = o ∧
        (HasChosenTypes u s t c ∨ c.Applies u s t ∧ ∀ d, ¬HasChosenTypes u s t d)

namespace Resolution

/-- The chosen types belong to the universe. -/
theorem mem_of_isInputChoice (hu : u.Layered) (hs : s ∈ u) (h : IsInputChoice u s t x) : x ∈ u := by
  cases h with
  | exact _ _ _ same => exact same ▸ hs
  | lifted _ _ _ same => exact same ▸ unwrapOptional_mem hu hs
  | implicit _ _ _ first =>
    obtain ⟨⟨⟨d, hd, -, rfl⟩, -⟩, -⟩ := first
    exact hd.input.1
  | explicit _ last =>
    obtain ⟨⟨⟨d, hd, rfl⟩, -⟩, -⟩ := last
    exact hd.input.1

theorem mem_of_isOutputChoice (hu : u.Layered) (ht : t ∈ u) (h : IsOutputChoice u s t x) :
    x ∈ u := by
  cases h with
  | exact _ _ _ same => exact same ▸ ht
  | lifted _ _ _ same => exact same ▸ unwrapOptional_mem hu ht
  | implicit _ _ _ first =>
    obtain ⟨⟨⟨d, hd, -, rfl⟩, -⟩, -⟩ := first
    exact hd.output.1
  | explicit _ last =>
    obtain ⟨⟨⟨d, hd, rfl⟩, -⟩, -⟩ := last
    exact hd.output.1

/-- The operators of the candidates are those of the pool, in its order. -/
theorem map_operator_candidates_sublist (pool : List Operator) :
    ((candidates u pool s t).map Candidate.operator).Sublist pool := by
  induction pool with
  | nil => exact List.Sublist.refl _
  | cons o pool ih =>
    rw [candidates, List.filterMap_cons]
    split
    · exact ih.cons o
    · rename_i c fits
      rw [List.map_cons, (Candidate.ofOperator?_eq_some.mp fits).1]
      exact ih.cons_cons o

variable {candidates : List Candidate}

/-- The candidates with the tokens of the chosen types are those that have the chosen types. -/
theorem mem_filter_chosen_iff (hu : u.Layered) (hs : s ∈ u) (ht : t ∈ u)
    (all : ∀ c, c ∈ candidates ↔ c.Applies u s t) (hx : IsInputChoice u s t x)
    (hy : IsOutputChoice u s t y) :
    c ∈ candidates.filter (fun c => c.input.token == x.token && c.output.token == y.token) ↔
      HasChosenTypes u s t c := by
  rw [List.mem_filter, all, HasChosenTypes]
  refine and_congr_right fun hc => ?_
  have input : c.input.token = x.token ↔ IsInputChoice u s t c.input := by
    refine ⟨fun e => ?_, fun h => congrArg _ (h.unique hx)⟩
    rwa [eq_of_token_eq hc.input.1 (mem_of_isInputChoice hu hs hx) e]
  have output : c.output.token = y.token ↔ IsOutputChoice u s t c.output := by
    refine ⟨fun e => ?_, fun h => congrArg _ (h.unique hy)⟩
    rwa [eq_of_token_eq hc.output.1 (mem_of_isOutputChoice hu ht hy) e]
  rw [Bool.and_eq_true, beq_iff_eq, beq_iff_eq, input, output]

/-- Where no candidate has the chosen types, all candidates are listed. -/
theorem meets_ambiguous_all (all : ∀ c, c ∈ candidates ↔ c.Applies u s t)
    (nodup : (candidates.map Candidate.operator).Nodup) (some : candidates ≠ [])
    (none : ∀ d, ¬HasChosenTypes u s t d) :
    Meets u s t (.ambiguous (candidates.map Candidate.operator)) := by
  obtain ⟨c, hc⟩ := List.exists_mem_of_ne_nil _ some
  refine ⟨⟨c, (all c).mp hc⟩, ?_, nodup, fun o => ?_⟩
  · rintro ⟨d, hd, -⟩
    exact none d hd
  · rw [List.mem_map]
    refine exists_congr fun d => ?_
    rw [all, and_comm]
    refine and_congr_right fun _ => ⟨fun h => .inr ⟨h, none⟩, ?_⟩
    rintro (h | h)
    · exact h.1
    · exact h.1

/-- The choice among the operators that apply has the outcome that it should have. -/
theorem meets_choose (hu : u.Layered) (hs : s ∈ u) (ht : t ∈ u)
    (all : ∀ c, c ∈ candidates ↔ c.Applies u s t)
    (nodup : (candidates.map Candidate.operator).Nodup) : Meets u s t (choose u candidates) := by
  rw [choose]
  split
  · rename_i empty
    intro c hc
    rw [List.isEmpty_iff.mp empty] at all
    cases (all c).mpr hc
  rename_i some
  have some : candidates ≠ [] := by simpa using some
  split
  · rename_i k j hk hj
    obtain ⟨x, rfl, hx⟩ := (inputType?_eq_some all).mp hk
    obtain ⟨y, rfl, hy⟩ := (outputType?_eq_some all).mp hj
    have chosen := fun c => mem_filter_chosen_iff (c := c) hu hs ht all hx hy
    have nodupChosen := (nodup.of_map.filter
      fun c => c.input.token == x.token && c.output.token == y.token)
    split
    · rename_i winner single
      rw [eq_singleton_iff nodupChosen, isOnly_congr chosen] at single
      exact ⟨winner, single, rfl⟩
    · rename_i nothing
      refine meets_ambiguous_all all nodup some fun d hd => ?_
      rw [← chosen, nothing] at hd
      cases hd
    · rename_i several noSingle noNil
      obtain ⟨c, hc⟩ := List.exists_mem_of_ne_nil _ noNil
      have hc := (chosen c).mp hc
      refine ⟨⟨c, hc.1⟩, ?_, nodup.sublist (List.filter_sublist.map _), fun o => ?_⟩
      · rintro ⟨d, hd⟩
        exact noSingle d ((eq_singleton_iff nodupChosen).mpr ((isOnly_congr chosen).mpr hd))
      · rw [List.mem_map]
        refine exists_congr fun d => ?_
        rw [chosen, and_comm]
        exact and_congr_right fun _ => ⟨.inl, fun h => h.resolve_right fun h => h.2 c hc⟩
  · rename_i noChoice
    refine meets_ambiguous_all all nodup some fun d hd => ?_
    exact noChoice _ _ ((inputType?_eq_some all).mpr ⟨_, rfl, hd.2.1⟩)
      ((outputType?_eq_some all).mpr ⟨_, rfl, hd.2.2⟩)

/-- The outcomes that a request should have exclude one another. -/
theorem Meets.found_iff {r : Resolution} (h : r.Meets u s t) {conversion : UserDefinedConversion} :
    r = .found conversion ↔
      ∃ c, IsOnly (HasChosenTypes u s t) c ∧ conversion = c.conversion := by
  refine ⟨?_, ?_⟩
  · rintro rfl
    exact h
  · rintro ⟨c, only, rfl⟩
    cases r with
    | notFound => exact absurd only.1.1 (h c)
    | ambiguous operators => exact absurd ⟨c, only⟩ h.2.1
    | found other =>
      obtain ⟨d, only', rfl⟩ := h
      rw [only.unique only']

theorem Meets.notFound_iff {r : Resolution} (h : r.Meets u s t) :
    r = .notFound ↔ ∀ c : Candidate, ¬c.Applies u s t := by
  refine ⟨?_, fun none => ?_⟩
  · rintro rfl
    exact h
  · cases r with
    | notFound => rfl
    | ambiguous operators =>
      obtain ⟨⟨c, hc⟩, -⟩ := h
      exact absurd hc (none c)
    | found other =>
      obtain ⟨d, only, -⟩ := h
      exact absurd only.1.1 (none d)

end Resolution

/-- **The resolution in a built universe has the outcome that it should have.** -/
theorem meets_resolveUserDefined (hu : u.Built) (hs : s ∈ u) (ht : t ∈ u) :
    (u.resolveUserDefined s t).Meets u s t := by
  have all : ∀ c, c ∈ Resolution.candidates u (u.operatorPool s t) s t ↔ c.Applies u s t := by
    intro c
    rw [Resolution.mem_candidates_iff, Candidate.applies_iff hu hs ht]
  refine Resolution.meets_choose hu.wellFormed.toLayered hs ht all ?_
  have nodup : (u.operatorPool s t).Nodup := .of_map _ (Token.nodup_map_distinct Operator.token _)
  exact nodup.sublist (Resolution.map_operator_candidates_sublist _)

/-- **Resolution meets its specification**, by way of any cache that a run leads to. It finds
nothing exactly if no operator applies, it finds a conversion exactly if that is the conversion of
the only operator with the chosen types, and else it lists the operators with the chosen types, or
all that apply if there are none. -/
theorem resolve_specification {operators : OperatorCache} (run : operators.Reached u) (hs : s ∈ u)
    (ht : t ∈ u) :
    ((operators.resolve u s t).1 = .notFound ↔ ∀ c : Candidate, ¬c.Applies u s t) ∧
      (∀ conversion, (operators.resolve u s t).1 = .found conversion ↔
        ∃ c, IsOnly (HasChosenTypes u s t) c ∧ conversion = c.conversion) ∧
      ∀ listed, (operators.resolve u s t).1 = .ambiguous listed → listed.Nodup ∧
        ∀ o, o ∈ listed ↔ ∃ c : Candidate, c.operator = o ∧
          (HasChosenTypes u s t c ∨ c.Applies u s t ∧ ∀ d, ¬HasChosenTypes u s t d) := by
  obtain ⟨built, coherent⟩ := run.coherent
  have meets := meets_resolveUserDefined built hs ht
  rw [coherent.resolve_eq built.wellFormed.toLayered hs ht]
  refine ⟨meets.notFound_iff, fun _ => meets.found_iff, fun listed e => ?_⟩
  rw [e] at meets
  exact meets.2.2

/-- A struct with an operator to numbers of one kind converts to those of a wider kind by it. -/
theorem resolve_specification_struct : ∃ (u : Universe) (s : TypeDescriptor) (c : Candidate),
    IsOnly (HasChosenTypes u s (NumericKind.integer .int64).descriptor) c ∧
      c.output = (NumericKind.integer .int32).descriptor := by
  let start := Declaration.start .initial
  let d := (start.1.asValueType "Shop" "Price").withOperator
    { input := start.1.token, output := (NumericKind.integer .int32).token, isImplicit := true,
      procedure := fun _ => .ok .null }
  let u := (d.build start.2).2
  let s : TypeDescriptor :=
    { token := start.1.token, namespaceName := "Shop", name := "Price", kind := .struct,
      flags := { isSealed := true }, base := some FrameworkType.valueType.token }
  have allocated : start.2.Allocated d.token := ⟨_, by decide, by decide, rfl⟩
  have described : d.Described d.token := .withOperator _ (.asValueType _ _ .start)
  have begun : start.2.Built := .step .initial .allocate (by constructor <;> decide)
  have built : u.Built := .step begun (.build d allocated described) (by constructor <;> decide)
  have spec := resolve_specification (s := s) (.fresh built) (by decide)
    (built.wellFormed.builtin (NumericKind.integer .int64).descriptor (by decide))
  have resolved : (match (({} : OperatorCache).resolve u s
      (NumericKind.integer .int64).descriptor).1 with
      | .found conversion => conversion.operator.output == (NumericKind.integer .int32).token
      | _ => false) = true := by decide +kernel
  split at resolved
  · rename_i conversion found
    obtain ⟨c, only, rfl⟩ := (spec.2.1 conversion).mp found
    have output := only.1.1.output
    refine ⟨u, s, c, only, eq_of_token_eq output.1 (built.wellFormed.builtin _ (by decide)) ?_⟩
    exact output.2.trans (beq_iff_eq.mp resolved)
  · cases resolved

end TypeConversion
