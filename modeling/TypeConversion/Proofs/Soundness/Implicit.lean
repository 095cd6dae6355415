import TypeConversion.Proofs.Numeric.Widening
import TypeConversion.Proofs.Soundness.Conversion
import TypeConversion.Proofs.Standard.Growth

/-!
# Implicit conversions do not fail

* `Certain u s t block`: the block gives a value of `t` for every value of `s`, and the same in both
  modes of casts. The program of an implicit standard conversion does
  (`certain_of_classifyStandard`), and so does what is spliced in without being asked for.
* `FailsBy u s p lifted before block`: the block fails on a value of `s` only if the procedure `p`
  fails on what `before` makes of it, and with its error. This is all that is left of an implicit
  user-defined conversion (`failsBy_userDefined`) and of one of the host (`failsBy_host`).
* `convert_implicit`: the converters of classified pairs.
-/

namespace TypeConversion

open Universe

/-- The block gives a value of one type for every value of another, in both modes the same. -/
def Certain (u : Universe) (s t : TypeDescriptor) (block : List Instruction) : Prop :=
  ∀ v, WellTyped u v s → ∃ w, WellTyped u w t ∧
    ∀ x : Execution, x.types = u → Instruction.runAll x block v = .ok w

variable {u : Universe} {a b r s t : TypeDescriptor} {block rest : List Instruction}
  {i : Instruction} {c : Conversion} {σ : Type}

namespace Certain

theorem nil : Certain u s s [] := fun v hv => ⟨v, hv, fun _ _ => rfl⟩

theorem single (h : ∀ v, WellTyped u v s → ∃ w, WellTyped u w t ∧
    ∀ x : Execution, x.types = u → i.run x v = .ok w) : Certain u s t [i] := by
  intro v hv
  obtain ⟨w, hw, run⟩ := h v hv
  refine ⟨w, hw, fun x hx => ?_⟩
  rw [Instruction.runAll, run x hx]
  rfl

/-- Certain blocks compose. -/
theorem append (h : Certain u s r block) (h' : Certain u r t rest) :
    Certain u s t (block ++ rest) := by
  intro v hv
  obtain ⟨y, hy, first⟩ := h v hv
  obtain ⟨w, hw, second⟩ := h' y hy
  refine ⟨w, hw, fun x hx => ?_⟩
  rw [Instruction.runAll_append, first x hx]
  exact second x hx

theorem wrap (h : IsOptionalIn u t b) : Certain u b t [.wrap] :=
  .single fun _ hv => ⟨_, h.wrap hv, fun _ _ => rfl⟩

/-- A certain block is certain when it is lifted over optionals. -/
theorem lift (hs : IsOptionalIn u s a) (ht : IsOptionalIn u t b) (h : Certain u a b block) :
    Certain u s t [.lift block] := by
  refine .single fun v hv => ?_
  rcases hs.wellTyped_iff.mp hv with rfl | ⟨y, rfl, hy⟩
  · exact ⟨.empty, ht.wellTyped_iff.mpr (.inl rfl),
      fun _ _ => rfl⟩
  · obtain ⟨w, hw, run⟩ := h y hy
    refine ⟨w.wrap, ht.wrap hw, fun x hx => ?_⟩
    rw [Instruction.run, Value.lift, run x hx]
    rfl

end Certain

/-! ## Standard conversions -/

theorem certain_cast {k l : NumericKind} (hs : s.numericKind? = some k)
    (ht : t.numericKind? = some l) (h : NumericRelation.between k l ≠ .explicit) :
    Certain u s t (NumericCast.program ⟨k, l⟩) := by
  rw [NumericCast.program]
  split
  · rename_i identity
    obtain rfl : k = l := CastOperation.eq_of_between_eq_identity identity
    intro v hv
    exact ⟨v, (wellTyped_numeric_iff ht).mpr ((wellTyped_numeric_iff hs).mp hv), fun _ _ => rfl⟩
  · refine .single fun v hv => ?_
    obtain ⟨n, rfl, rfl⟩ := (wellTyped_numeric_iff hs).mp hv
    obtain ⟨m, cast⟩ := Number.cast?_of_implicit h
    refine ⟨.number m, ?_, fun x _ => ?_⟩
    · exact (wellTyped_numeric_iff ht).mpr ⟨m, rfl, Number.kind_cast? (cast .checked)⟩
    · rw [Instruction.run, Value.cast, if_pos rfl, cast x.overflow]

theorem certain_content (hs : s ∈ u) (ht : t ∈ u) (h : ContentRule s t c)
    (implicit : c.isImplicit = true) : Certain u s t c.contentProgram := by
  cases h with
  | identity same =>
    obtain rfl := eq_of_token_eq hs ht same
    exact .nil
  | numeric _ hs ht flag => exact certain_cast hs ht (bne_iff_ne.mp (flag.symm.trans implicit))
  | enumeration => cases implicit

/-- **An implicit standard conversion gives a value** for every value of its source. -/
theorem certain_of_classifyStandard (hu : u.WellFormed) (hs : s ∈ u) (ht : t ∈ u)
    (h : classifyStandard u s t = some c) (implicit : c.isImplicit = true) :
    Certain u s t (c.program u s t) := by
  have layered := hu.toLayered
  cases standardRule_of_classifyStandard layered hs ht h with
  | identity same =>
    rw [← same, Conversion.program]
    exact .nil
  | content _ _ _ _ rule =>
    rw [rule.program_eq]
    exact certain_content hs ht rule implicit
  | nullable _ _ _ rule =>
    obtain ⟨inner, wraps⟩ := Bool.and_eq_true_iff.mp implicit
    have optionalT := isOptionalIn_unwrapOptional layered ht wraps
    have content := certain_content (unwrapOptional_mem layered hs)
      (unwrapOptional_mem layered ht) rule inner
    rw [Conversion.program, wraps]
    cases unwraps : s.isOptional with
    | true => exact .lift (isOptionalIn_unwrapOptional layered hs unwraps) optionalT content
    | false =>
      rw [unwrapOptional_of_not_optional unwraps] at content
      exact content.append (.wrap optionalT)
  | box target =>
    rw [Conversion.program]
    have sound : Sound ⟨u, .checked, ""⟩ none s t [.box (u.unwrapOptional s).token] :=
      sound_box layered hs ht target
    exact .single fun v hv => ⟨_, sound v hv, fun _ _ => rfl⟩
  | unbox | explicitReference => cases implicit
  | implicitReference leads =>
    rw [Conversion.program]
    exact .single fun v hv => ⟨v, hv.widen hu hs ht leads, fun _ _ => rfl⟩

/-! ## Splices -/

/-- What is spliced in need not be asked for. -/
def Splice.IsImplicit (splice : Splice) : Prop :=
  ∀ plan, splice.plan? = some plan → plan.isImplicit = true

theorem Splice.isImplicit_absent : Splice.absent.IsImplicit := fun _ h => by cases h

theorem Splice.isImplicit_along (implicit : c.isImplicit = true) :
    (Splice.along s t c).IsImplicit := fun _ h => by
  cases h
  exact implicit

theorem certain_of_connects (hu : u.WellFormed) (ha : a ∈ u) (hb : b ∈ u) {splice : Splice}
    (h : splice.Connects u a b) (implicit : splice.IsImplicit) :
    Certain u a b (splice.program u) := by
  cases h with
  | absent same =>
    rw [same, Splice.program]
    exact .nil
  | along standard =>
    rw [Splice.program]
    exact certain_of_classifyStandard hu ha hb standard (implicit _ rfl)

theorem isImplicit_of_connect? {splice : Splice} (h : HostRegistry.connect? u s t = some splice) :
    splice.IsImplicit := by
  rw [HostRegistry.connect?] at h
  split at h
  · cases h
    exact Splice.isImplicit_absent
  · split at h
    · split at h <;> cases h
      exact Splice.isImplicit_along ‹_›
    · cases h

/-- What is spliced in between types that are not only explicitly related is implicit. -/
theorem isImplicit_of_relate? {relation : TypeRelation} (h : relate? u a b = some relation)
    (close : relation.closeness ≠ .explicit) :
    (Candidate.splice a b relation.conversion).IsImplicit := by
  rw [relate?] at h
  split at h
  · cases h
    exact Splice.isImplicit_absent
  · obtain ⟨conversion, -, rfl⟩ := Option.map_eq_some_iff.mp h
    refine Splice.isImplicit_along ?_
    by_contra explicit
    exact close (if_neg explicit)

/-! ## Procedures -/

/-- The procedure is called for a value and returns an error: it is called on what the splice before
it makes of the value, or of the value's content where the operator is lifted over optionals. -/
def CallFails (x : Execution) (p : Procedure) (lifted : Bool) (before : Splice) (v : Value)
    (e : Error) : Prop :=
  ∃ content argument, v = (if lifted then .present content else content) ∧
    Instruction.runAll x (before.program x.types) content = .ok argument ∧ p argument = .error e

/-- The block fails on values of a type only if the procedure fails, and with its error. -/
def FailsBy (u : Universe) (s : TypeDescriptor) (p : Procedure) (lifted : Bool) (before : Splice)
    (block : List Instruction) : Prop :=
  ∀ v, WellTyped u v s → ∀ (x : Execution) (e : Error), x.types = u →
    Instruction.runAll x block v = .error e → CallFails x p lifted before v e

/-- A procedure between implicit conversions is what makes them fail. -/
theorem failsBy_of_connects (hu : u.WellFormed) (hs : s ∈ u) (ha : a ∈ u) (hb : b ∈ u) (ht : t ∈ u)
    {p : Procedure} {before after : Splice} (hbefore : before.Connects u s a)
    (hafter : after.Connects u b t) (implicit : before.IsImplicit ∧ after.IsImplicit)
    (preserves : Procedure.Preserves u p a b) (call : ∀ x v, i.run x v = p v) :
    FailsBy u s p false before (before.program u ++ i :: after.program u) := by
  rintro v hv x e rfl failed
  obtain ⟨argument, typed, run⟩ := certain_of_connects hu hs ha hbefore implicit.1 v hv
  refine ⟨v, argument, rfl, run x rfl, ?_⟩
  rw [Instruction.runAll_append, run x rfl] at failed
  change Instruction.runAll x (i :: after.program x.types) argument = .error e at failed
  -- the splices give values, so the error is that of the procedure
  rw [Instruction.runAll, call] at failed
  cases result : p argument with
  | error e' =>
    rw [result] at failed
    exact congrArg Except.error (Except.error.inj failed)
  | ok w =>
    have typed := preserves argument w typed result
    obtain ⟨_, -, run⟩ := certain_of_connects hu hb ht hafter implicit.2 w typed
    rw [result] at failed
    cases (run x rfl).symm.trans failed

theorem FailsBy.lift {p : Procedure} {before : Splice} (hs : IsOptionalIn u s a)
    (h : FailsBy u a p false before block) : FailsBy u s p true before [.lift block] := by
  rintro v hv x e rfl failed
  rw [Instruction.runAll, Instruction.run] at failed
  rcases hs.wellTyped_iff.mp hv with rfl | ⟨w, rfl, hw⟩
  · cases failed
  · rw [Value.lift] at failed
    cases result : Instruction.runAll x block w with
    | ok y =>
      rw [result] at failed
      cases failed
    | error e' =>
      rw [result] at failed
      cases failed
      obtain ⟨_, argument, rfl, run, called⟩ := h w hw x e rfl result
      exact ⟨_, argument, rfl, run, called⟩

/-- **An implicit user-defined conversion fails only as its operator does.** -/
theorem failsBy_userDefined (hu : u.WellFormed) (hs : s ∈ u) (ht : t ∈ u) {c : Candidate}
    (h : c.IsFor u s t) (preserves : c.operator.Preserves u) (implicit : c.isImplicit = true) :
    FailsBy u s c.operator.procedure c.unwraps c.conversion.before
      (c.conversion.conversion.program u s t) := by
  have layered := hu.toLayered
  simp only [Candidate.isImplicit, Bool.and_eq_true, bne_iff_ne, Bool.not_eq_true'] at implicit
  obtain ⟨⟨⟨-, toInput⟩, fromOutput⟩, balanced⟩ := implicit
  have preserves :=
    preserves c.input h.input_mem c.output h.output_mem h.input_token h.output_token
  have block := failsBy_of_connects hu (h.source_mem layered hs) h.input_mem h.output_mem
    (h.target_mem layered ht) (h.before_connects layered hs) (h.after_connects layered ht)
    ⟨isImplicit_of_relate? h.toInput toInput, isImplicit_of_relate? h.fromOutput fromOutput⟩
    preserves (i := .invoke c.operator) fun _ _ => rfl
  have source := h.source
  rw [UserDefinedConversion.conversion, Conversion.program]
  change FailsBy u s _ c.unwraps _ (Instruction.liftOperator c.unwraps c.wraps _)
  cases unwraps : c.unwraps with
  | false =>
    have wraps : c.wraps = false := by rw [h.wraps, unwraps]; rfl
    rw [unwraps] at source
    rw [source] at block
    rw [wraps]
    exact block
  | true =>
    have wraps : c.wraps = true := by simpa [unwraps] using balanced
    have optional := isOptionalIn_of_lifts layered hs (h.unwraps ▸ unwraps)
    rw [unwraps] at source
    rw [source] at block
    rw [wraps]
    exact block.lift optional

/-! ## Host conversions -/

/-- **A host conversion with implicit splices fails only as its procedure does.** -/
theorem failsBy_host (hu : u.WellFormed) (hs : s ∈ u) (ht : t ∈ u) {c : HostConversion}
    (h : c.IsFor u s t) (implicit : c.before.IsImplicit ∧ c.after.IsImplicit) :
    FailsBy u s c.procedure false c.before (c.conversion.program u s t) := by
  obtain ⟨a, ha, b, hb, before, after, preserves⟩ := h.sides
  rw [HostConversion.conversion, Conversion.program]
  exact failsBy_of_connects hu hs ha hb ht before after implicit preserves
    (i := .invokeHost c.procedure) fun _ _ => rfl

namespace HostRegistry

/-- Nothing is spliced in around what is found for exactly a pair. -/
theorem absent_of_findExact {entries : List (HostEntry (StateM σ))} {before after : σ}
    {c : HostConversion} (h : (findExact s t entries).run before = (some c, after)) :
    c.before = .absent ∧ c.after = .absent := by
  induction entries generalizing before with
  | nil => cases h
  | cons entry entries ih =>
    cases entry with
    | converter input output p =>
      rw [findExact] at h
      split at h
      · cases h
        exact ⟨rfl, rfl⟩
      · exact ih h
    | provider provide =>
      rw [findExact, StateT.run_bind] at h
      rcases hp : (provide s t).run before with ⟨answer, between⟩
      rw [hp] at h
      cases answer with
      | none => exact ih h
      | some p =>
        cases h
        exact ⟨rfl, rfl⟩

/-- What is spliced in around a host converter connects it to the pair. -/
theorem connect?_of_resolve {host : HostRegistry (StateM σ)} {before after : σ}
    {c : HostConversion} (h : (host.resolve u s t).run before = (some c, after)) :
    ∃ a b, connect? u s a = some c.before ∧ connect? u b t = some c.after := by
  rw [resolve, StateT.run_bind] at h
  rcases hp : (findExact s t host.entries).run before with ⟨answer, between⟩
  rw [hp] at h
  cases answer with
  | some found =>
    cases h
    obtain ⟨before, after⟩ := absent_of_findExact hp
    rw [before, after]
    exact ⟨s, t, if_pos rfl, if_pos rfl⟩
  | none =>
    have found := congrArg Prod.fst h
    obtain ⟨entry, -, connected⟩ := List.exists_of_findSome?_eq_some found
    cases entry with
    | provider provide => cases connected
    | converter input output p =>
      simp only [connected?, Option.bind_eq_bind, Option.bind_eq_some_iff] at connected
      obtain ⟨a, -, b, -, before, hbefore, after, hafter, made⟩ := connected
      cases made
      exact ⟨a, b, hbefore, hafter⟩

end HostRegistry

/-! ## Classified pairs -/

section Classified

variable {config : Configuration} {operators operators' : OperatorCache}
  {host : HostRegistry (StateM σ)} {before after : σ} {plan : Plan}
  (h : (classify config u operators host s t).run before
    = ((.convertible plan, operators'), after))

include h

/-- A pair that is classified with a standard conversion has it as its standard conversion. -/
theorem classifyStandard_of_isStandard (form : plan.conversion.IsStandard) :
    classifyStandard u s t = some plan.conversion := by
  obtain ⟨-, -, standard | ⟨c, -, e⟩ | ⟨c, -, e⟩⟩ := classify_cases h
  · exact standard
  all_goals
    rw [e] at form
    cases form

/-- A pair that is classified with a user-defined conversion is classified with that of a
candidate. -/
theorem exists_candidate_of_classify (run : operators.Reached u) (hs : s ∈ u) (ht : t ∈ u)
    {o : Operator} {unwraps wraps flag : Bool} {toInput fromOutput : Splice}
    (form : plan.conversion = .userDefined o unwraps wraps toInput fromOutput flag) :
    ∃ c : Candidate, c.operator ∈ u.operators ∧ c.IsFor u s t ∧
      plan.conversion = c.conversion.conversion := by
  obtain ⟨-, -, standard | ⟨c, found, e⟩ | ⟨c, -, e⟩⟩ := classify_cases h
  · have layered := run.coherent.1.wellFormed.toLayered
    have isStandard := isStandard_of_classifyStandard layered hs ht standard
    rw [form] at isStandard
    cases isStandard
  · obtain ⟨candidate, seen, fits, rfl⟩ := OperatorCache.exists_candidate_of_resolve run hs ht found
    exact ⟨candidate, seen.elim And.left And.left, fits, e⟩
  · cases e.symm.trans form

/-- A pair that is classified with a conversion of the host is classified with what the host finds
for it. -/
theorem exists_resolve_of_classify (hu : u.Layered) (hs : s ∈ u) (ht : t ∈ u) {p : Procedure}
    {input output : Token} {toInput fromOutput : Splice}
    (form : plan.conversion = .host p input output toInput fromOutput) :
    ∃ c, (host.resolve u s t).run before = (some c, after) ∧ plan.conversion = c.conversion := by
  obtain ⟨-, -, standard | ⟨c, -, e⟩ | found⟩ := classify_cases h
  · have isStandard := isStandard_of_classifyStandard hu hs ht standard
    rw [form] at isStandard
    cases isStandard
  · cases e.symm.trans form
  · exact found

end Classified

/-- **Implicit conversions do not fail.** In a built universe, the converter of an implicit standard
conversion gives a value for every value of the source, in both modes the same. That of an implicit
user-defined conversion fails only with the error that its operator returns. What is spliced in
around a host converter is implicit, and the conversion fails only with the error that the host's
procedure returns. -/
theorem convert_implicit {config : Configuration} {operators operators' : OperatorCache}
    {host : HostRegistry (StateM σ)} {before after : σ} {plan : Plan} {v : Value}
    (run : operators.Reached u) (user : ∀ o ∈ u.operators, o.Preserves u)
    (registered : ∀ entry ∈ host.entries, entry.Preserves u) (hs : s ∈ u) (ht : t ∈ u)
    (h : (classify config u operators host s t).run before
      = ((.convertible plan, operators'), after)) (hv : WellTyped u v s) :
    (plan.conversion.IsStandard → plan.isImplicit = true →
      ∃ w, ∀ mode, (Converter.ofPlan u plan mode).convert u v = .ok w) ∧
    (∀ o unwraps wraps toInput fromOutput,
      plan.conversion = .userDefined o unwraps wraps toInput fromOutput true →
      ∀ mode e, (Converter.ofPlan u plan mode).convert u v = .error e →
        CallFails ⟨u, mode, plan.target.fullName⟩ o.procedure unwraps toInput v e) ∧
    ∀ p input output toInput fromOutput,
      plan.conversion = .host p input output toInput fromOutput →
      (toInput.IsImplicit ∧ fromOutput.IsImplicit) ∧
      ∀ mode e, (Converter.ofPlan u plan mode).convert u v = .error e →
        CallFails ⟨u, mode, plan.target.fullName⟩ p false toInput v e := by
  have wellFormed := run.coherent.1.wellFormed
  have layered := wellFormed.toLayered
  obtain ⟨rfl, rfl, -⟩ := classify_cases h
  refine ⟨fun form implicit => ?_, fun o unwraps wraps toInput fromOutput form mode e failed => ?_,
    fun p input output toInput fromOutput form => ?_⟩
  · have standard := classifyStandard_of_isStandard h form
    obtain ⟨w, -, run⟩ := certain_of_classifyStandard wellFormed hs ht standard implicit v hv
    exact ⟨w, fun mode => run ⟨u, mode, plan.target.fullName⟩ rfl⟩
  · obtain ⟨c, known, fits, same⟩ := exists_candidate_of_classify h run hs ht form
    obtain ⟨rfl, rfl, rfl, rfl, rfl, implicit⟩ := Conversion.userDefined.inj (same.symm.trans form)
    refine failsBy_userDefined wellFormed hs ht fits (user _ known) implicit v hv _ _ rfl ?_
    rw [← same]
    exact failed
  · obtain ⟨c, found, same⟩ := exists_resolve_of_classify h layered hs ht form
    obtain ⟨rfl, rfl, rfl, rfl, rfl⟩ := Conversion.host.inj (same.symm.trans form)
    obtain ⟨_, _, toInput, fromOutput⟩ := HostRegistry.connect?_of_resolve found
    have implicit := And.intro (isImplicit_of_connect? toInput) (isImplicit_of_connect? fromOutput)
    have fits := HostRegistry.isFor_of_resolve hs ht registered found
    refine ⟨implicit, fun mode e failed => ?_⟩
    refine failsBy_host wellFormed hs ht fits implicit v hv _ _ rfl ?_
    rw [← same]
    exact failed

/-- The host has no text for a number, so no enumeration either: the conversion from numbers to
enumerations, by the host's converter and an upcast, fails with the error of the converter. -/
theorem convert_implicit_host : ∃ (plan : Plan) (p : Procedure) (input output : Token)
    (toInput fromOutput : Splice),
    plan.conversion = .host p input output toInput fromOutput
      ∧ (toInput.IsImplicit ∧ fromOutput.IsImplicit)
      ∧ CallFails ⟨.initial, .checked, plan.target.fullName⟩ p false toInput
        (.number (.integer ⟨.int32, 7, by decide, by decide⟩)) (.conversion "no text") := by
  let host : HostRegistry (StateM Unit) := ({} : HostRegistry (StateM Unit)).addConverter
    (NumericKind.integer .int32).descriptor FrameworkType.string.descriptor
    fun _ => .error (.conversion "no text")
  have registered : ∀ entry ∈ host.entries, entry.Preserves Universe.initial := by
    intro entry he
    rw [List.mem_singleton.mp he]
    rintro a - b - - - v w - made
    cases made
  have user : ∀ o ∈ Universe.initial.operators, o.Preserves Universe.initial := by
    intro o ho
    cases ho
  obtain ⟨plan, operators, found⟩ : ∃ plan operators, (classify {} Universe.initial {} host
      (NumericKind.integer .int32).descriptor FrameworkType.enumerable.descriptor).run ()
      = ((.convertible plan, operators), ()) := ⟨_, _, rfl⟩
  have outcome := convert_implicit (.fresh .initial) user registered (by decide)
    (wellFormed_initial.framework .enumerable) found
    (v := .number (.integer ⟨.int32, 7, by decide, by decide⟩)) rfl
  cases found
  obtain ⟨implicit, fails⟩ := outcome.2.2 _ _ _ _ _ rfl
  exact ⟨_, _, _, _, _, _, rfl, implicit, fails .checked _ rfl⟩

end TypeConversion
