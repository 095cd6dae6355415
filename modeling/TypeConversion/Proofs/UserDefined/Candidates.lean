import TypeConversion.Proofs.UserDefined.Visible
import TypeConversion.Proofs.Standard.Rules

/-!
# Candidates

* `Candidate.IsFor u s t c`: the candidate `c` fits a request from `s` to `t`, lifted where it has
  to be. `ofOperator?_eq_some` says that these are the candidates that an operator gives.
* `exists_candidate_of_found`: what a resolution finds is one of the candidates, and
  `OperatorCache.exists_candidate_of_resolve`: so is what is found by way of a cache.
-/

namespace TypeConversion

open Universe

variable {u : Universe} {s t a b : TypeDescriptor} {o : Operator} {c : Candidate}

/-- The candidate fits a request: its sides belong to its operator, it is lifted where the request
has an optional and the operator a plain value type, and its sides relate to the request. -/
structure Candidate.IsFor (u : Universe) (s t : TypeDescriptor) (c : Candidate) : Prop where
  input_mem : c.input ∈ u
  input_token : c.input.token = c.operator.input
  output_mem : c.output ∈ u
  output_token : c.output.token = c.operator.output
  unwraps : c.unwraps = Candidate.lifts s c.input
  wraps : c.wraps = (c.unwraps && Candidate.lifts t c.output)
  source : c.source = if c.unwraps then u.unwrapOptional s else s
  target : c.target = if c.wraps then u.unwrapOptional t else t
  toInput : relate? u c.source c.input = some c.toInput
  fromOutput : relate? u c.output c.target = some c.fromOutput

namespace Candidate

theorem ofOperator?_eq_some :
    ofOperator? u s t o = some c ↔ c.operator = o ∧ c.IsFor u s t := by
  simp only [ofOperator?, Option.bind_eq_bind, Option.bind_eq_some_iff, find?_eq_some_iff]
  constructor
  · rintro ⟨input, ⟨hi, ti⟩, output, ⟨ho, to_⟩, toInput, hin, fromOutput, hout, made⟩
    cases made
    exact ⟨rfl, hi, ti, ho, to_, rfl, rfl, rfl, rfl, hin, hout⟩
  · rintro ⟨rfl, h⟩
    refine ⟨c.input, ⟨h.input_mem, h.input_token⟩, c.output, ⟨h.output_mem, h.output_token⟩,
      c.toInput, ?_, c.fromOutput, ?_, ?_⟩
    · rw [← h.unwraps, ← h.source]
      exact h.toInput
    · rw [← h.unwraps, ← h.wraps, ← h.target]
      exact h.fromOutput
    · rw [← h.unwraps, ← h.wraps, ← h.source, ← h.target]
      rfl

/-- What is spliced in between related types leads from one to the other. -/
theorem connects_of_relate? (ha : a ∈ u) (hb : b ∈ u) {r : TypeRelation}
    (h : relate? u a b = some r) : (splice a b r.conversion).Connects u a b := by
  rw [relate?] at h
  split at h
  · rename_i same
    cases h
    exact .absent (eq_of_token_eq ha hb same)
  · obtain ⟨conversion, standard, rfl⟩ := Option.map_eq_some_iff.mp h
    exact .along standard

theorem IsFor.source_mem (hu : u.Layered) (hs : s ∈ u) (h : c.IsFor u s t) : c.source ∈ u := by
  rw [h.source]
  exact ite_unwrapOptional_mem hu hs _

theorem IsFor.target_mem (hu : u.Layered) (ht : t ∈ u) (h : c.IsFor u s t) : c.target ∈ u := by
  rw [h.target]
  exact ite_unwrapOptional_mem hu ht _

theorem IsFor.before_connects (hu : u.Layered) (hs : s ∈ u) (h : c.IsFor u s t) :
    c.conversion.before.Connects u c.source c.input :=
  connects_of_relate? (h.source_mem hu hs) h.input_mem h.toInput

theorem IsFor.after_connects (hu : u.Layered) (ht : t ∈ u) (h : c.IsFor u s t) :
    c.conversion.after.Connects u c.output c.target :=
  connects_of_relate? h.output_mem (h.target_mem hu ht) h.fromOutput

end Candidate

namespace Resolution

theorem mem_candidates_iff {pool : List Operator} :
    c ∈ candidates u pool s t ↔ c.operator ∈ pool ∧ c.IsFor u s t := by
  simp only [candidates, List.mem_filterMap, Candidate.ofOperator?_eq_some]
  constructor
  · rintro ⟨o, ho, rfl, h⟩
    exact ⟨ho, h⟩
  · rintro ⟨ho, h⟩
    exact ⟨c.operator, ho, rfl, h⟩

/-- What is found is the conversion of one of the candidates. -/
theorem exists_candidate_of_found {pool : List Operator} {conversion : UserDefinedConversion}
    (h : ofPool u pool s t = .found conversion) :
    ∃ c : Candidate, c.operator ∈ pool ∧ c.IsFor u s t ∧ conversion = c.conversion := by
  rw [ofPool, choose] at h
  split at h
  · cases h
  split at h
  · split at h
    · rename_i winner single
      cases h
      have mem : winner ∈ candidates u pool s t :=
        (List.mem_filter.mp (single ▸ List.mem_singleton_self winner)).1
      obtain ⟨ho, fits⟩ := mem_candidates_iff.mp mem
      exact ⟨winner, ho, fits, rfl⟩
    · cases h
    · cases h
  · cases h

end Resolution

/-- What is found is the conversion of a candidate whose operator the types of the request see. -/
theorem OperatorCache.exists_candidate_of_resolve {operators : OperatorCache}
    (run : operators.Reached u) (hs : s ∈ u) (ht : t ∈ u) {conversion : UserDefinedConversion}
    (found : (operators.resolve u s t).1 = .found conversion) :
    ∃ c : Candidate, (u.Sees (u.unwrapOptional s) c.operator
        ∨ u.Sees (u.unwrapOptional t) c.operator) ∧ c.IsFor u s t ∧ conversion = c.conversion := by
  obtain ⟨built, coherent⟩ := run.coherent
  rw [coherent.resolve_eq built.wellFormed.toLayered hs ht] at found
  obtain ⟨c, inPool, fits, same⟩ := Resolution.exists_candidate_of_found found
  exact ⟨c, (mem_operatorPool_iff built hs ht).mp inPool, fits, same⟩

end TypeConversion
