import TypeConversion.Proofs.UserDefined.Resolution
import TypeConversion.Proofs.Soundness.Instructions

/-!
# Operators with the signature of the request

An operator that takes the very source of a request and gives its very target needs nothing around
it, and no other operator competes with it.

* `Operator.HasSignature u s t o`: the request sees the operator, which leads from `s` to `t`.
* `Candidate.direct s t o`: the candidate of such an operator. It is not lifted, also where the
  request is between optionals, so it comes before the operators that are exact on the contents
  (`IsChoice.iff_of_exact`).
* `hasChosenTypes_iff_of_signature`: so the operators with the chosen types are those with the
  signature.
* `resolve_signature`: the only one is found, and several are ambiguous among themselves.
-/

namespace TypeConversion

open Universe

variable {u : Universe} {s t x : TypeDescriptor} {o p : Operator} {c : Candidate}

/-- The operator is visible on one of the types of the request, taken out of their optionals, and
has the types of the request as they are. -/
def Operator.HasSignature (u : Universe) (s t : TypeDescriptor) (o : Operator) : Prop :=
  (u.Sees (u.unwrapOptional s) o ∨ u.Sees (u.unwrapOptional t) o) ∧
    o.input = s.token ∧ o.output = t.token

/-- The operator as a candidate that needs no conversions and is not lifted. -/
def Candidate.direct (s t : TypeDescriptor) (o : Operator) : Candidate :=
  { operator := o, input := s, output := t, source := s, target := t, unwraps := false,
    wraps := false, toInput := ⟨.exact, none⟩, fromOutput := ⟨.exact, none⟩ }

namespace Candidate

/-- An operator with the signature applies as it is. -/
theorem applies_direct (hs : s ∈ u) (ht : t ∈ u) (h : o.HasSignature u s t) :
    (direct s t o).Applies u s t where
  declared := h.1
  input := ⟨hs, h.2.1.symm⟩
  output := ⟨ht, h.2.2.symm⟩
  unwraps := by simp +contextual [direct]
  wraps := by simp [direct]
  source := rfl
  target := rfl
  toInput := .exact rfl
  fromOutput := .exact rfl

/-- A candidate with the types of the request is that of an operator with the signature. -/
theorem Applies.hasSignature (h : c.Applies u s t) (input : c.input = s) (output : c.output = t) :
    c.operator.HasSignature u s t :=
  ⟨h.declared, by rw [← h.input.2, input], by rw [← h.output.2, output]⟩

/-- Applying the operator is all that the conversion does. -/
theorem conversion_direct (s t : TypeDescriptor) (o : Operator) :
    (direct s t o).conversion =
      { operator := o, unwraps := false, wraps := false, before := .absent, after := .absent,
        isImplicit := o.isImplicit } := by
  have implicit : (direct s t o).isImplicit = o.isImplicit := by simp [direct, isImplicit]
  simp only [conversion, implicit]
  rfl

end Candidate

/-- One exact operator that is not lifted decides the type of a side. -/
theorem IsChoice.iff_of_exact {applies : Candidate → Prop} {closeness : Candidate → Closeness}
    {lifted : Candidate → Bool} {type : Candidate → TypeDescriptor}
    {request content : TypeDescriptor} {before : TypeDescriptor → TypeDescriptor → Prop}
    (h : applies c) (near : closeness c = .exact) (plain : lifted c = false) :
    IsChoice applies closeness lifted type request content before x ↔ x = request :=
  ⟨fun hx => hx.unique (.exact h near plain rfl), fun same => .exact h near plain same⟩

/-- **The candidates with the chosen types** are those of the operators with the signature. -/
theorem hasChosenTypes_iff_of_signature (hs : s ∈ u) (ht : t ∈ u) (h : o.HasSignature u s t) :
    HasChosenTypes u s t c ↔ ∃ p : Operator, p.HasSignature u s t ∧ c = .direct s t p := by
  have direct := Candidate.applies_direct hs ht h
  rw [HasChosenTypes, IsInputChoice, IsOutputChoice, IsChoice.iff_of_exact direct rfl rfl,
    IsChoice.iff_of_exact direct rfl rfl]
  constructor
  · rintro ⟨applies, input, output⟩
    have signature := applies.hasSignature input output
    exact ⟨c.operator, signature,
      applies.eq_of_operator_eq (Candidate.applies_direct hs ht signature) rfl⟩
  · rintro ⟨p, signature, rfl⟩
    exact ⟨Candidate.applies_direct hs ht signature, rfl, rfl⟩

namespace Resolution

variable {r : Resolution}

/-- The only operator with the signature is found. -/
theorem Meets.found_of_signature (meets : r.Meets u s t) (hs : s ∈ u) (ht : t ∈ u)
    (only : IsOnly (Operator.HasSignature u s t) o) :
    r = .found (Candidate.direct s t o).conversion := by
  have chosen := fun c => hasChosenTypes_iff_of_signature (c := c) hs ht only.1
  refine meets.found_iff.mpr ⟨_, ⟨(chosen _).mpr ⟨o, only.1, rfl⟩, fun d hd => ?_⟩, rfl⟩
  obtain ⟨p, signature, rfl⟩ := (chosen d).mp hd
  rw [only.2 p signature]

/-- Several operators with the signature are listed. -/
theorem Meets.ambiguous_of_signature (meets : r.Meets u s t) (hs : s ∈ u) (ht : t ∈ u)
    (ho : o.HasSignature u s t) (hp : p.HasSignature u s t) (ne : o ≠ p) :
    ∃ listed, r = .ambiguous listed ∧ listed.Nodup ∧
      ∀ q, q ∈ listed ↔ q.HasSignature u s t := by
  have chosen := fun c => hasChosenTypes_iff_of_signature (c := c) hs ht ho
  have first : HasChosenTypes u s t (.direct s t o) := (chosen _).mpr ⟨o, ho, rfl⟩
  have second : HasChosenTypes u s t (.direct s t p) := (chosen _).mpr ⟨p, hp, rfl⟩
  cases r with
  | notFound => exact absurd first.1 (meets _)
  | found conversion =>
    obtain ⟨c, only, -⟩ := meets
    have same := (only.2 _ first).trans (only.2 _ second).symm
    exact absurd (congrArg Candidate.operator same) ne
  | ambiguous listed =>
    obtain ⟨-, -, nodup, mem⟩ := meets
    refine ⟨listed, rfl, nodup, fun q => (mem q).trans ⟨?_, fun signature => ?_⟩⟩
    · rintro ⟨c, rfl, hc | ⟨-, none⟩⟩
      · obtain ⟨q, signature, rfl⟩ := (chosen c).mp hc
        exact signature
      · exact absurd first (none _)
    · exact ⟨_, rfl, .inl ((chosen _).mpr ⟨q, signature, rfl⟩)⟩

end Resolution

/-- **An operator with the signature of the request wins**, by way of any cache that a run leads to,
whatever other operators there are. If it is the only one, it is found, with nothing around it. If
there are several, the request is ambiguous between exactly those. -/
theorem resolve_signature {operators : OperatorCache} (run : operators.Reached u) (hs : s ∈ u)
    (ht : t ∈ u) :
    (∀ o, IsOnly (Operator.HasSignature u s t) o → (operators.resolve u s t).1 = .found
        { operator := o, unwraps := false, wraps := false, before := .absent, after := .absent,
          isImplicit := o.isImplicit }) ∧
      ∀ o p : Operator, o.HasSignature u s t → p.HasSignature u s t → o ≠ p →
        ∃ listed, (operators.resolve u s t).1 = .ambiguous listed ∧ listed.Nodup ∧
          ∀ q, q ∈ listed ↔ q.HasSignature u s t := by
  obtain ⟨built, coherent⟩ := run.coherent
  have meets := meets_resolveUserDefined built hs ht
  rw [coherent.resolve_eq built.wellFormed.toLayered hs ht]
  refine ⟨fun o only => ?_, fun o p ho hp ne => meets.ambiguous_of_signature hs ht ho hp ne⟩
  rw [meets.found_of_signature hs ht only, Candidate.conversion_direct]

/-- A price with an operator to numbers and with one between the optionals of the two; and then with
another one between the optionals, which numbers declare. -/
theorem exists_signatures : ∃ (u v : Universe) (s t : TypeDescriptor) (a o p : Operator),
    (u.Built ∧ v.Built) ∧ (s ∈ u ∧ t ∈ u ∧ s ∈ v ∧ t ∈ v) ∧
      (s.isOptional = true ∧ t.isOptional = true) ∧
      (u.operators = [a, o] ∧ v.operators = [a, o, p]) ∧ (a.input ≠ s.token ∧ o ≠ p) ∧
      (a.input = (u.unwrapOptional s).token ∧ a.output = (u.unwrapOptional t).token) ∧
      o.HasSignature u s t ∧ o.HasSignature v s t ∧ p.HasSignature v s t := by
  let number := (NumericKind.integer .int32).descriptor
  let start := Declaration.start .initial
  let d := start.1.asValueType "Shop" "Price"
  have allocated : start.2.Allocated d.token := ⟨_, by decide, by decide, rfl⟩
  have described : d.Described d.token := .asValueType _ _ .start
  have begun : start.2.Built := .step .initial .allocate (by constructor <;> decide)
  obtain ⟨price, u₁, made⟩ : ∃ t v, d.build start.2 = (.ok t, v) := ⟨_, _, rfl⟩
  obtain ⟨s, u₂, ofPrice⟩ : ∃ a v, u₁.optionalOf price = .ok (a, v) := by
    cases made
    exact ⟨_, _, rfl⟩
  obtain ⟨t, u₃, ofNumber⟩ : ∃ a v, u₂.optionalOf number = .ok (a, v) := by
    cases made
    cases ofPrice
    exact ⟨_, _, rfl⟩
  obtain ⟨a, u₄, toNumber⟩ : ∃ a v, u₃.declareOperator price.token price.token number.token true
      (fun _ => .ok .null) = .ok (a, v) := by
    cases made
    cases ofPrice
    cases ofNumber
    exact ⟨_, _, rfl⟩
  obtain ⟨o, u, between⟩ : ∃ a v, u₄.declareOperator price.token s.token t.token false
      (fun _ => .ok .null) = .ok (a, v) := by
    cases made
    cases ofPrice
    cases ofNumber
    cases toNumber
    exact ⟨_, _, rfl⟩
  obtain ⟨p, v, again⟩ : ∃ a v, u.declareOperator number.token s.token t.token false
      (fun _ => .ok .null) = .ok (a, v) := by
    cases made
    cases ofPrice
    cases ofNumber
    cases toNumber
    cases between
    exact ⟨_, _, rfl⟩
  have known : (u₁.WithinRows ∧ u₂.WithinRows ∧ u₃.WithinRows ∧ u₄.WithinRows ∧ u.WithinRows ∧
      v.WithinRows) ∧ price ∈ u₁ ∧ (s ∈ u ∧ t ∈ u ∧ s ∈ v ∧ t ∈ v) ∧
      (s.isOptional = true ∧ t.isOptional = true) ∧
      (u.operators = [a, o] ∧ v.operators = [a, o, p]) ∧ (a.input ≠ s.token ∧ o.token ≠ p.token) ∧
      (a.input = (u.unwrapOptional s).token ∧ a.output = (u.unwrapOptional t).token) ∧
      (o.declaring = (u.unwrapOptional s).token ∧ o.declaring = (v.unwrapOptional s).token ∧
        o.input = s.token ∧ o.output = t.token) ∧
      p.declaring = (v.unwrapOptional t).token ∧ p.input = s.token ∧ p.output = t.token := by
    cases made
    cases ofPrice
    cases ofNumber
    cases toNumber
    cases between
    cases again
    refine ⟨⟨?_, ?_, ?_, ?_, ?_, ?_⟩, by decide, by decide, by decide, ⟨rfl, rfl⟩, by decide,
      by decide, by decide, by decide⟩
    all_goals constructor <;> decide
  obtain ⟨⟨rows₁, rows₂, rows₃, rows₄, rowsU, rowsV⟩, mem, mems, optional, declared,
    ⟨other, tokens⟩, contents, ⟨ofU, ofV, input, output⟩, ofNumbers, input', output'⟩ := known
  have built₁ : u₁.Built := by
    have step := Step.build d allocated described
    rw [made] at step
    exact .step begun step rows₁
  obtain ⟨built₂, -, -⟩ := built₁.optionalOf mem ofPrice rows₂
  obtain ⟨built₃, -, -⟩ := built₂.optionalOf (built₂.wellFormed.numeric _) ofNumber rows₃
  have built₄ : u₄.Built := .step built₃ (.declareOperator toNumber) rows₄
  have builtU : u.Built := .step built₄ (.declareOperator between) rowsU
  have builtV : v.Built := .step builtU (.declareOperator again) rowsV
  refine ⟨u, v, s, t, a, o, p, ⟨builtU, builtV⟩, mems, optional, declared,
    ⟨other, fun same => tokens (congrArg _ same)⟩, contents, ⟨.inl ⟨?_, .inl ofU⟩, input, output⟩,
    ⟨.inl ⟨?_, .inl ofV⟩, input, output⟩, .inr ⟨?_, .inl ofNumbers⟩, input', output'⟩
  · simp [declared.1]
  · simp [declared.2]
  · simp [declared.2]

/-- The operator between the optionals is found, though the one on their contents is exact as well;
and two operators between the optionals are ambiguous. -/
theorem resolve_signature_optionals : ∃ (u v : Universe) (s t : TypeDescriptor) (a o p : Operator),
    u.operators = [a, o] ∧ v.operators = [a, o, p] ∧ o ≠ p ∧
      (s.isOptional = true ∧ a.input = (u.unwrapOptional s).token) ∧
      (t.isOptional = true ∧ a.output = (u.unwrapOptional t).token) ∧
      (({} : OperatorCache).resolve u s t).1 = .found
        { operator := o, unwraps := false, wraps := false, before := .absent, after := .absent,
          isImplicit := o.isImplicit } ∧
      ∃ listed, (({} : OperatorCache).resolve v s t).1 = .ambiguous listed ∧
        ∀ q, q ∈ listed ↔ q = o ∨ q = p := by
  obtain ⟨u, v, s, t, a, o, p, ⟨builtU, builtV⟩, ⟨hs, ht, hs', ht'⟩, ⟨os, ot⟩, ⟨two, three⟩,
    ⟨other, ne⟩, ⟨input, output⟩, inU, inV, again⟩ := exists_signatures
  have only : IsOnly (Operator.HasSignature u s t) o := by
    refine ⟨inU, fun q signature => ?_⟩
    have mem : q ∈ u.operators := signature.1.elim And.left And.left
    obtain rfl | rfl : q = a ∨ q = o := by simpa [two] using mem
    · exact absurd signature.2.1 other
    · rfl
  have found := (resolve_signature (.fresh builtU) hs ht).1 o only
  obtain ⟨listed, ambiguous, -, exactly⟩ :=
    (resolve_signature (.fresh builtV) hs' ht').2 o p inV again ne
  refine ⟨u, v, s, t, a, o, p, two, three, ne, ⟨os, input⟩, ⟨ot, output⟩, found, listed, ambiguous,
    fun q => (exactly q).trans ⟨fun signature => ?_, ?_⟩⟩
  · have mem : q ∈ v.operators := signature.1.elim And.left And.left
    obtain rfl | same : q = a ∨ q = o ∨ q = p := by simpa [three] using mem
    · exact absurd signature.2.1 other
    · exact same
  · rintro (rfl | rfl)
    · exact inV
    · exact again

end TypeConversion
