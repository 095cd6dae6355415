import TypeConversion.Classification
import TypeConversion.Proofs.Soundness.Standard
import TypeConversion.Proofs.UserDefined.Candidates

/-!
# Conversions are sound

A conversion that a pair of types is classified with takes values of the source to values of the
target, or fails for one of the reasons that a conversion can fail for: no content in an optional,
null where a value is needed, a number out of range, a reference of another type, or an error of the
procedure that the conversion applies.

* `Operator.Preserves`, `HostEntry.Preserves`: the procedures that users and the host provide keep
  to the types that they are registered for.
* `sound_userDefined` and `sound_host`: the conversions around a procedure are sound, whether it is
  lifted over optionals or not.
* `convert_wellTyped`: the converter of a classified pair is sound, whatever the configuration, the
  state of the host's providers and the mode of casts are.
-/

namespace TypeConversion

open Universe

variable {x : Execution} {procedure : Option Procedure} {u : Universe} {a b s t : TypeDescriptor}
  {σ : Type}

/-- The operator gives values of its output type for values of its input type. -/
def Operator.Preserves (u : Universe) (o : Operator) : Prop :=
  ∀ a ∈ u, ∀ b ∈ u, a.token = o.input → b.token = o.output → Procedure.Preserves u o.procedure a b

/-- The converters of a registration give values of their output type for values of their input
type, whatever the state is when a provider answers. -/
def HostEntry.Preserves (u : Universe) : HostEntry (StateM σ) → Prop
  | .converter input output p =>
    ∀ a ∈ u, ∀ b ∈ u, a.token = input → b.token = output → Procedure.Preserves u p a b
  | .provider provide => ∀ a ∈ u, ∀ b ∈ u, ∀ (before after : σ) (p : Procedure),
    (provide a b).run before = (some p, after) → Procedure.Preserves u p a b

/-- The procedure that a conversion applies. -/
def Conversion.procedure? : Conversion → Option Procedure
  | .userDefined o _ _ _ _ _ => some o.procedure
  | .host p _ _ _ _ => some p
  | _ => none

/-! ## Splices and procedures -/

theorem sound_invoke {o : Operator} (h : Procedure.Preserves x.types o.procedure a b) :
    Sound x (some o.procedure) a b [.invoke o] := by
  refine .single fun v hv => ?_
  rw [Instruction.run, Operator.invoke]
  cases hp : o.procedure v with
  | ok w => exact h v w hv hp
  | error e => exact Failure.procedure rfl hp

theorem sound_invokeHost {p : Procedure} (h : Procedure.Preserves x.types p a b) :
    Sound x (some p) a b [.invokeHost p] := by
  refine .single fun v hv => ?_
  rw [Instruction.run]
  cases hp : p v with
  | ok w => exact h v w hv hp
  | error e => exact Failure.procedure rfl hp

/-- What leads from one type to another is sound. -/
theorem sound_of_connects (hu : x.types.WellFormed) (ha : a ∈ x.types) (hb : b ∈ x.types)
    {splice : Splice} (h : splice.Connects x.types a b) :
    Sound x procedure a b (splice.program x.types) := by
  cases h with
  | absent same =>
    rw [same, Splice.program]
    exact .nil
  | along standard =>
    rw [Splice.program]
    exact sound_of_classifyStandard hu ha hb standard

/-! ## User-defined conversions -/

theorem isOptionalIn_of_lifts {u : Universe} (hu : u.Layered) (hs : s ∈ u)
    (h : Candidate.lifts s a = true) : IsOptionalIn u s (u.unwrapOptional s) := by
  simp only [Candidate.lifts, Bool.and_eq_true] at h
  exact isOptionalIn_unwrapOptional hu hs h.1.1

/-- A block between the types of a candidate is sound between those of the request, once it is
lifted as the candidate is. -/
theorem sound_liftOperator (hu : x.types.Layered) (hs : s ∈ x.types) (ht : t ∈ x.types)
    {c : Candidate} (h : c.IsFor x.types s t) {block : List Instruction}
    (sound : Sound x procedure c.source c.target block) :
    Sound x procedure s t (Instruction.liftOperator c.unwraps c.wraps block) := by
  have source := h.source
  have target := h.target
  cases unwraps : c.unwraps with
  | false =>
    have wraps : c.wraps = false := by rw [h.wraps, unwraps]; rfl
    rw [unwraps] at source
    rw [wraps] at target
    rw [source, target] at sound
    rw [wraps]
    exact sound
  | true =>
    have inS := isOptionalIn_of_lifts hu hs (h.unwraps ▸ unwraps)
    rw [unwraps] at source
    cases wraps : c.wraps with
    | true =>
      have inT := isOptionalIn_of_lifts hu ht (Bool.and_eq_true_iff.mp (h.wraps ▸ wraps)).2
      rw [wraps] at target
      rw [source, target] at sound
      exact .lift inS inT sound
    | false =>
      rw [wraps] at target
      rw [source, target] at sound
      exact .unwrap inS sound

/-- **The conversion of a candidate is sound** if its operator keeps to its types. -/
theorem sound_userDefined (hu : x.types.WellFormed) (hs : s ∈ x.types) (ht : t ∈ x.types)
    {c : Candidate} (h : c.IsFor x.types s t) (preserves : c.operator.Preserves x.types) :
    Sound x (some c.operator.procedure) s t
      (c.conversion.conversion.program x.types s t) := by
  have layered := hu.toLayered
  have invoke := sound_invoke
    (preserves c.input h.input_mem c.output h.output_mem h.input_token h.output_token)
  have block := (sound_of_connects hu (h.source_mem layered hs) h.input_mem
    (h.before_connects layered hs)).append (invoke.append
      (sound_of_connects hu h.output_mem (h.target_mem layered ht) (h.after_connects layered ht)))
  rw [UserDefinedConversion.conversion, Conversion.program]
  exact sound_liftOperator layered hs ht h block

/-! ## Host conversions -/

/-- A host conversion whose procedure and whose splices fit a request. -/
structure HostConversion.IsFor (u : Universe) (s t : TypeDescriptor) (c : HostConversion) :
    Prop where
  sides : ∃ a ∈ u, ∃ b ∈ u, c.before.Connects u s a ∧ c.after.Connects u b t
    ∧ Procedure.Preserves u c.procedure a b

theorem sound_host (hu : x.types.WellFormed) (hs : s ∈ x.types) (ht : t ∈ x.types)
    {c : HostConversion} (h : c.IsFor x.types s t) :
    Sound x (some c.procedure) s t (c.conversion.program x.types s t) := by
  obtain ⟨a, ha, b, hb, before, after, preserves⟩ := h.sides
  rw [HostConversion.conversion, Conversion.program]
  exact (sound_of_connects hu hs ha before).append
    ((sound_invokeHost preserves).append (sound_of_connects hu hb ht after))

namespace HostRegistry

/-- What is found for exactly a pair keeps to its types. -/
theorem isFor_of_findExact (hs : s ∈ u) (ht : t ∈ u) {entries : List (HostEntry (StateM σ))}
    (preserves : ∀ entry ∈ entries, entry.Preserves u) {before after : σ} {c : HostConversion}
    (h : (findExact s t entries).run before = (some c, after)) : c.IsFor u s t := by
  induction entries generalizing before with
  | nil => cases h
  | cons entry entries ih =>
    have first := preserves entry List.mem_cons_self
    have rest := fun entry he => preserves entry (List.mem_cons_of_mem _ he)
    cases entry with
    | converter input output p =>
      rw [findExact] at h
      split at h
      · rename_i exact_
        cases h
        exact ⟨s, hs, t, ht, .absent rfl, .absent rfl,
          first s hs t ht exact_.1.symm exact_.2.symm⟩
      · exact ih rest h
    | provider provide =>
      rw [findExact, StateT.run_bind] at h
      rcases hp : (provide s t).run before with ⟨answer, between⟩
      rw [hp] at h
      cases answer with
      | none => exact ih rest h
      | some p =>
        cases h
        exact ⟨s, hs, t, ht, .absent rfl, .absent rfl, first s hs t ht before _ p hp⟩

/-- What connects a registered converter to a pair keeps to its types. -/
theorem isFor_of_connected? (hs : s ∈ u) (ht : t ∈ u) {entry : HostEntry (StateM σ)}
    (preserves : entry.Preserves u) {c : HostConversion} (h : connected? u s t entry = some c) :
    c.IsFor u s t := by
  cases entry with
  | provider provide => cases h
  | converter input output p =>
    simp only [connected?, Option.bind_eq_bind, Option.bind_eq_some_iff, find?_eq_some_iff] at h
    obtain ⟨a, ⟨ha, ta⟩, b, ⟨hb, tb⟩, before, hbefore, after, hafter, made⟩ := h
    cases made
    exact ⟨a, ha, b, hb, connects_of_connect? hs ha hbefore, connects_of_connect? hb ht hafter,
      preserves a ha b hb ta tb⟩

/-- **The conversion that the host has for a pair keeps to its types** if the registrations do. -/
theorem isFor_of_resolve (hs : s ∈ u) (ht : t ∈ u) {host : HostRegistry (StateM σ)}
    (preserves : ∀ entry ∈ host.entries, entry.Preserves u) {before after : σ} {c : HostConversion}
    (h : (host.resolve u s t).run before = (some c, after)) : c.IsFor u s t := by
  rw [resolve, StateT.run_bind] at h
  rcases hp : (findExact s t host.entries).run before with ⟨answer, between⟩
  rw [hp] at h
  cases answer with
  | some found =>
    cases h
    exact isFor_of_findExact hs ht preserves hp
  | none =>
    have found := congrArg Prod.fst h
    obtain ⟨entry, he, connected⟩ := List.exists_of_findSome?_eq_some found
    exact isFor_of_connected? hs ht (preserves entry he) connected

end HostRegistry

/-! ## Classified pairs -/

/-- Where the conversion of a classified pair comes from. -/
theorem classify_cases {config : Configuration} {operators operators' : OperatorCache}
    {host : HostRegistry (StateM σ)} {before after : σ} {plan : Plan}
    (h : (classify config u operators host s t).run before
      = ((.convertible plan, operators'), after)) :
    plan.source = s ∧ plan.target = t ∧ (classifyStandard u s t = some plan.conversion
      ∨ (∃ c, (operators.resolve u s t).1 = .found c ∧ plan.conversion = c.conversion)
      ∨ ∃ c, (host.resolve u s t).run before = (some c, after)
          ∧ plan.conversion = c.conversion) := by
  rw [classify] at h
  split at h
  · rename_i found
    cases h
    exact ⟨rfl, rfl, .inl found⟩
  split at h
  · rename_i found
    cases h
    rw [resolveConfigured] at found
    split at found
    · exact ⟨rfl, rfl, .inr (.inl ⟨_, congrArg Prod.fst found, rfl⟩)⟩
    · cases found
  · cases h
  · rw [StateT.run_bind] at h
    rcases hp : (hostConfigured config u host s t).run before with ⟨answer, between⟩
    rw [hp] at h
    cases answer with
    | none => cases h
    | some c =>
      cases h
      rw [hostConfigured] at hp
      split at hp
      · exact ⟨rfl, rfl, .inr (.inr ⟨c, hp, rfl⟩)⟩
      · cases hp

/-- **Type soundness.** In a built universe, the converter of a classified pair takes values of the
source to values of the target or fails for one of the reasons of a conversion, in either mode. The
caches are those of a run, and the procedures of users and of the host keep to their types. -/
theorem convert_wellTyped {config : Configuration} {operators operators' : OperatorCache}
    {host : HostRegistry (StateM σ)} {before after : σ} {plan : Plan} {v : Value}
    (run : operators.Reached u) (user : ∀ o ∈ u.operators, o.Preserves u)
    (registered : ∀ entry ∈ host.entries, entry.Preserves u) (hs : s ∈ u) (ht : t ∈ u)
    (h : (classify config u operators host s t).run before
      = ((.convertible plan, operators'), after))
    (mode : OverflowMode) (hv : WellTyped u v s) :
    match (Converter.ofPlan u plan mode).convert u v with
    | .ok w => WellTyped u w t
    | .error e => Failure plan.conversion.procedure? e := by
  obtain ⟨built, coherent⟩ := run.coherent
  have wellFormed := built.wellFormed
  obtain ⟨source, target, origin⟩ := classify_cases h
  have sound : Sound ⟨u, mode, plan.target.fullName⟩ plan.conversion.procedure? s t
      (plan.conversion.program u s t) := by
    rcases origin with standard | ⟨c, found, e⟩ | ⟨c, found, e⟩
    · exact sound_of_classifyStandard wellFormed hs ht standard
    · rw [coherent.resolve_eq wellFormed.toLayered hs ht] at found
      obtain ⟨candidate, ho, fits, rfl⟩ := Resolution.exists_candidate_of_found found
      rw [e]
      have seen := (mem_operatorPool_iff built hs ht).mp ho
      exact sound_userDefined wellFormed hs ht fits (user _ (seen.elim And.left And.left))
    · rw [e]
      exact sound_host wellFormed hs ht (HostRegistry.isFor_of_resolve hs ht registered found)
  have outcome := sound v hv
  rw [← source, ← target] at outcome
  rw [← target]
  exact outcome

/-- The host writes numbers as texts, and a text is an enumeration: a number converts to one by the
host's converter and an upcast. -/
theorem convert_wellTyped_host : ∃ (plan : Plan) (w : Value),
    (Converter.ofPlan .initial plan .checked).convert .initial
        (.number (.integer ⟨.int32, 7, by decide, by decide⟩)) = .ok w
      ∧ WellTyped .initial w FrameworkType.enumerable.descriptor := by
  let host : HostRegistry (StateM Unit) := ({} : HostRegistry (StateM Unit)).addConverter
    (NumericKind.integer .int32).descriptor FrameworkType.string.descriptor
    fun _ => .ok (.string "seven")
  have registered : ∀ entry ∈ host.entries, entry.Preserves Universe.initial := by
    intro entry he
    rw [List.mem_singleton.mp he]
    rintro a ha b hb - same v w - made
    cases made
    rw [eq_of_token_eq hb (wellFormed_initial.framework .string) same]
    exact ⟨rfl, .inl rfl⟩
  have user : ∀ o ∈ Universe.initial.operators, o.Preserves Universe.initial := by
    intro o ho
    cases ho
  obtain ⟨plan, operators, found⟩ : ∃ plan operators, (classify {} Universe.initial {} host
      (NumericKind.integer .int32).descriptor FrameworkType.enumerable.descriptor).run ()
      = ((.convertible plan, operators), ()) := ⟨_, _, rfl⟩
  have typed := convert_wellTyped (.fresh .initial) user registered (by decide)
    (wellFormed_initial.framework .enumerable) found .checked
    (v := .number (.integer ⟨.int32, 7, by decide, by decide⟩)) rfl
  have outcome : (Converter.ofPlan .initial plan .checked).convert .initial
      (.number (.integer ⟨.int32, 7, by decide, by decide⟩)) = .ok (.string "seven") := by
    cases found
    rfl
  rw [outcome] at typed
  exact ⟨plan, _, outcome, typed⟩

end TypeConversion
