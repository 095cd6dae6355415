import TypeConversion.Proofs.Soundness.Implicit

/-!
# The meaning of plans

A plan has a meaning of its own, read off its structure, and the program of a plan that
classification gives does what the plan means.

* `Conversion.meaning` evaluates a conversion along its structure: a conversion through optionals by
  that of the contents, one by a procedure by the splices around it.
* `Conversion.computes_program`: the program of a regular conversion, with its blocks nested in
  instructions, computes the meaning of the conversion, by induction on the conversion.
* `convert_eq_meaning`: a classified plan is regular, so its converter computes its meaning, on
  every value and in both modes.
-/

namespace TypeConversion

/-! ## Meanings -/

/-- What a value is to a conversion of contents: the content of an optional, and any other value
itself. Null and the empty optional have no content. -/
def Value.content? : Value → Option Value
  | .null | .empty => none
  | .present content => some content
  | other => some other

/-- Convert values that may be optionals by a conversion of their contents. A conversion that only
takes the content out has nothing to give without one. -/
def convertThrough (targetName : String) (unwraps wraps : Bool)
    (convert : Value → Except Error Value) (v : Value) : Except Error Value :=
  match unwraps, wraps with
  | true, true =>
    match v.content? with
    | some content => (convert content).map Value.wrap
    | none => .ok .empty
  | true, false =>
    match v.content? with
    | some content => convert content
    | none => .error (.emptyOptional targetName)
  | false, true => (convert v).map Value.wrap
  | false, false => convert v

/-- Convert a value, then convert what became of it. -/
def followedBy (f g : Value → Except Error Value) (v : Value) : Except Error Value :=
  (f v).bind g

/-- The meaning of a cast. A cast that is the identity is not applied. -/
def NumericCast.meaning (c : NumericCast) (mode : OverflowMode) (v : Value) : Except Error Value :=
  if c.operation = .identity then .ok v else v.cast c mode

mutual

/-- The meaning of a conversion between two types. -/
def Conversion.meaning (x : Execution) (source target : TypeDescriptor) :
    Conversion → Value → Except Error Value
  | .identity, v | .implicitReference, v => .ok v
  | .numeric _ cast, v | .enumeration cast, v => cast.meaning x.overflow v
  | .nullable _ unwraps wraps underlying, v =>
    convertThrough x.targetName unwraps wraps
      (underlying.meaning x (x.types.unwrapOptional source) (x.types.unwrapOptional target)) v
  | .box, v => .ok (v.box (x.types.unwrapOptional source).token)
  | .unbox, v => x.types.unboxValue (x.types.unwrapOptional target) target.isOptional v
  | .explicitReference, v => x.types.downcastValue target v
  | .userDefined operator unwraps wraps before after _, v =>
    convertThrough x.targetName unwraps wraps
      (followedBy (before.meaning x) (followedBy operator.procedure (after.meaning x))) v
  | .host procedure _ _ before after, v =>
    followedBy (before.meaning x) (followedBy procedure (after.meaning x)) v

/-- The meaning of what is spliced in. -/
def Splice.meaning (x : Execution) : Splice → Value → Except Error Value
  | .absent, v => .ok v
  | .along source target conversion, v => conversion.meaning x source target v

end

/-- The meaning of a plan in a universe, in a mode of casts. -/
def Plan.meaning (u : Universe) (mode : OverflowMode) (p : Plan) : Value → Except Error Value :=
  p.conversion.meaning ⟨u, mode, p.target.fullName⟩ p.source p.target

/-! ## Regular conversions -/

/-- The conversion is one of contents. -/
def Conversion.IsContent : Conversion → Prop
  | .identity | .numeric _ _ | .enumeration _ => True
  | .nullable _ _ _ _ | .box | .unbox | .implicitReference | .explicitReference
  | .userDefined _ _ _ _ _ _ | .host _ _ _ _ _ => False

mutual

/-- What is converted inside an optional is a content, and an operator that puts its result into an
optional takes its argument out of one. -/
def Conversion.IsRegular : Conversion → Prop
  | .nullable _ _ _ underlying => underlying.IsContent
  | .userDefined _ unwraps wraps before after _ =>
    (wraps = true → unwraps = true) ∧ before.IsRegular ∧ after.IsRegular
  | .host _ _ _ before after => before.IsRegular ∧ after.IsRegular
  | .identity | .numeric _ _ | .enumeration _ | .box | .unbox | .implicitReference
  | .explicitReference => True

/-- What is spliced in is regular. -/
def Splice.IsRegular : Splice → Prop
  | .absent => True
  | .along _ _ conversion => conversion.IsRegular

end

/-! ## Blocks -/

/-- Running the block is applying the function. -/
def Computes (x : Execution) (block : List Instruction) (f : Value → Except Error Value) : Prop :=
  ∀ v, Instruction.runAll x block v = f v

variable {x : Execution} {block rest : List Instruction} {i : Instruction}
  {f g : Value → Except Error Value}

/-- Taking the content out and converting it is converting through an optional. -/
theorem Value.unwrap_bind (f : Value → Except Error Value) (targetName : String) (v : Value) :
    (v.unwrap targetName).bind f = convertThrough targetName true false f v := by
  cases v <;> rfl

/-- Lifting a conversion is converting through optionals at both ends. -/
theorem Value.lift_eq (f : Value → Except Error Value) (targetName : String) (v : Value) :
    v.lift f = convertThrough targetName true true f v := by
  cases v <;> rfl

namespace Computes

theorem nil : Computes x [] .ok := fun _ => rfl

theorem cons (h : Computes x block f) : Computes x (i :: block) (followedBy (i.run x) f) := by
  intro v
  rw [Instruction.runAll, followedBy]
  cases i.run x v with
  | ok w => exact h w
  | error e => rfl

theorem single (h : ∀ v, i.run x v = f v) : Computes x [i] f := by
  intro v
  rw [Instruction.runAll, h]
  cases f v <;> rfl

theorem append (h : Computes x block f) (h' : Computes x rest g) :
    Computes x (block ++ rest) (followedBy f g) := by
  intro v
  rw [Instruction.runAll_append, h v, followedBy]
  cases f v with
  | ok w => exact h' w
  | error e => rfl

/-- A lifted block skips nothing but itself on the empty optional. -/
theorem lift (h : Computes x block f) :
    Computes x [.lift block] (convertThrough x.targetName true true f) :=
  .single fun v => by rw [Instruction.run, funext h, Value.lift_eq]

theorem unwrap (h : Computes x block f) :
    Computes x (.unwrap :: block) (convertThrough x.targetName true false f) := by
  intro v
  rw [h.cons v, followedBy, Instruction.run, Value.unwrap_bind]

theorem wrap (h : Computes x block f) :
    Computes x (block ++ [.wrap]) (convertThrough x.targetName false true f) := by
  intro v
  rw [Instruction.runAll_append, h v, convertThrough]
  cases f v <;> rfl

theorem throughOptional (unwraps wraps : Bool) (h : Computes x block f) :
    Computes x (Instruction.throughOptional unwraps wraps block)
      (convertThrough x.targetName unwraps wraps f) := by
  cases unwraps <;> cases wraps <;>
    simp only [Instruction.throughOptional, Bool.and_true, Bool.and_false, Bool.false_eq_true,
      if_true, if_false, List.nil_append, List.append_nil, List.singleton_append]
  · exact h
  · exact h.wrap
  · exact h.unwrap
  · exact h.lift

theorem liftOperator {unwraps wraps : Bool} (balanced : wraps = true → unwraps = true)
    (h : Computes x block f) :
    Computes x (Instruction.liftOperator unwraps wraps block)
      (convertThrough x.targetName unwraps wraps f) := by
  cases unwraps with
  | true =>
    cases wraps with
    | true => exact h.lift
    | false => exact h.unwrap
  | false =>
    obtain rfl : wraps = false := by simpa using balanced
    exact h

end Computes

/-! ## Programs -/

theorem computes_cast (c : NumericCast) : Computes x c.program (c.meaning x.overflow) := by
  intro v
  rw [NumericCast.program, NumericCast.meaning]
  split
  · rfl
  · rw [Instruction.runAll, Instruction.run]
    cases v.cast c x.overflow <;> rfl

theorem Conversion.IsContent.isRegular {c : Conversion} (h : c.IsContent) : c.IsRegular := by
  cases c <;> trivial

theorem Conversion.IsContent.contentProgram_eq {c : Conversion} (h : c.IsContent) (u : Universe)
    (s t : TypeDescriptor) : c.contentProgram = c.program u s t := by
  cases c <;> first | rfl | cases h

mutual

-- The induction is on the conversion together with what is spliced into it. A lifted block is the
-- program of a part, so it computes what that part means before it is nested.
/-- **The program of a regular conversion computes its meaning.** -/
theorem Conversion.computes_program (s t : TypeDescriptor) :
    ∀ c : Conversion, c.IsRegular → Computes x (c.program x.types s t) (c.meaning x s t)
  | .identity, _ => by
    rw [Conversion.program]
    exact .nil
  | .numeric _ cast, _ => by
    rw [Conversion.program]
    exact computes_cast cast
  | .enumeration cast, _ => by
    rw [Conversion.program]
    exact computes_cast cast
  | .nullable _ unwraps wraps underlying, regular => by
    have content : underlying.IsContent := regular
    have inner := underlying.computes_program (x.types.unwrapOptional s)
      (x.types.unwrapOptional t) content.isRegular
    rw [Conversion.program, content.contentProgram_eq]
    exact inner.throughOptional unwraps wraps
  | .box, _ => by
    rw [Conversion.program]
    exact .single fun _ => rfl
  | .unbox, _ => by
    rw [Conversion.program]
    exact .single fun _ => rfl
  | .implicitReference, _ => by
    rw [Conversion.program]
    exact .single fun _ => rfl
  | .explicitReference, _ => by
    rw [Conversion.program]
    exact .single fun _ => rfl
  | .userDefined operator _ _ before after _, ⟨balanced, hbefore, hafter⟩ => by
    rw [Conversion.program]
    have call : Computes x (.invoke operator :: after.program x.types) _ :=
      (after.computes_program hafter).cons
    exact ((before.computes_program hbefore).append call).liftOperator balanced
  | .host procedure _ _ before after, ⟨hbefore, hafter⟩ => by
    rw [Conversion.program]
    have call : Computes x (.invokeHost procedure :: after.program x.types) _ :=
      (after.computes_program hafter).cons
    exact (before.computes_program hbefore).append call

theorem Splice.computes_program :
    ∀ splice : Splice, splice.IsRegular → Computes x (splice.program x.types) (splice.meaning x)
  | .absent, _ => by
    rw [Splice.program]
    exact .nil
  | .along source target conversion, regular => by
    rw [Splice.program]
    exact conversion.computes_program source target regular

end

/-! ## Classified plans -/

variable {u : Universe} {a b s t : TypeDescriptor} {c : Conversion} {σ : Type}

theorem ContentRule.isContent (h : ContentRule s t c) : c.IsContent := by
  cases h <;> trivial

theorem isRegular_of_classifyStandard (h : classifyStandard u s t = some c) : c.IsRegular := by
  rw [classifyStandard] at h
  split at h
  · cases h
    trivial
  split at h
  · rename_i found
    cases h
    cases standardRule_of_classifyValue found with
    | content _ _ _ _ rule => exact rule.isContent.isRegular
    | nullable _ _ _ rule => exact rule.isContent
    | identity | box | unbox | implicitReference | explicitReference => trivial
  split at h
  · split at h <;> cases h
    trivial
  split at h
  · split at h <;> cases h
    trivial
  rw [classifyReference] at h
  split at h
  · cases h
    trivial
  · split at h <;> cases h
    trivial

theorem isRegular_of_relate? {relation : TypeRelation} (h : relate? u a b = some relation) :
    (Candidate.splice a b relation.conversion).IsRegular := by
  rw [relate?] at h
  split at h
  · cases h
    trivial
  · obtain ⟨conversion, standard, rfl⟩ := Option.map_eq_some_iff.mp h
    exact isRegular_of_classifyStandard standard

/-- The conversion of a candidate is regular: an operator is lifted over the target only where it is
lifted over the source. -/
theorem Candidate.IsFor.isRegular {candidate : Candidate} (h : candidate.IsFor u s t) :
    candidate.conversion.conversion.IsRegular := by
  refine ⟨fun wraps => ?_, isRegular_of_relate? h.toInput, isRegular_of_relate? h.fromOutput⟩
  exact (Bool.and_eq_true_iff.mp (h.wraps.symm.trans wraps)).1

theorem isRegular_of_connect? {splice : Splice} (h : HostRegistry.connect? u s t = some splice) :
    splice.IsRegular := by
  rw [HostRegistry.connect?] at h
  split at h
  · cases h
    trivial
  · split at h
    · split at h <;> cases h
      exact isRegular_of_classifyStandard ‹_›
    · cases h

/-- **Lowering preserves the meaning of plans.** The converter of a classified pair does with every
value, of whatever type, what the plan means, in both modes. Where an operator is lifted over both
optionals, the empty optional stays empty whatever the operator does. -/
theorem convert_eq_meaning {config : Configuration} {operators operators' : OperatorCache}
    {host : HostRegistry (StateM σ)} {before after : σ} {plan : Plan}
    (h : (classify config u operators host s t).run before
      = ((.convertible plan, operators'), after)) (mode : OverflowMode) (v : Value) :
    (Converter.ofPlan u plan mode).convert u v = plan.meaning u mode v ∧
      ∀ o toInput fromOutput flag,
        plan.conversion = .userDefined o true true toInput fromOutput flag → v.isNull = true →
        (Converter.ofPlan u plan mode).convert u v = .ok .empty := by
  have regular : plan.conversion.IsRegular := by
    obtain ⟨-, -, origin⟩ := classify_cases h
    rcases origin with standard | ⟨c, found, e⟩ | ⟨c, found, e⟩
    · exact isRegular_of_classifyStandard standard
    · obtain ⟨candidate, -, fits, rfl⟩ := Resolution.exists_candidate_of_found found
      rw [e]
      exact fits.isRegular
    · obtain ⟨_, _, toInput, fromOutput⟩ := HostRegistry.connect?_of_resolve found
      rw [e]
      exact ⟨isRegular_of_connect? toInput, isRegular_of_connect? fromOutput⟩
  have computed : (Converter.ofPlan u plan mode).convert u v = plan.meaning u mode v :=
    Conversion.computes_program (x := ⟨u, mode, plan.target.fullName⟩) plan.source plan.target
      plan.conversion regular v
  refine ⟨computed, fun o toInput fromOutput flag lifted null => ?_⟩
  rw [computed, Plan.meaning, lifted, Conversion.meaning]
  cases v <;> first | rfl | cases null

/-- A price converts to a number of one kind by its operator, so an optional price to an optional
number of a wider kind. Without a price there is no number, and the operator, which would fail, is
not applied. -/
theorem convert_eq_meaning_price : ∃ (u : Universe) (plan : Plan),
    plan.category = .userDefined ∧ (Converter.ofPlan u plan .checked).convert u .empty = .ok .empty
      ∧ plan.meaning u .checked .empty = .ok .empty := by
  let start := Declaration.start .initial
  let d := (start.1.asValueType "Shop" "Price").withOperator
    { input := start.1.token, output := (NumericKind.integer .int32).token, isImplicit := true,
      procedure := fun _ => .error (.conversion "no price") }
  obtain ⟨price, u₁, made⟩ : ∃ t v, d.build start.2 = (.ok t, v) := ⟨_, _, rfl⟩
  obtain ⟨prices, u₂, ofPrice⟩ : ∃ t v, u₁.optionalOf price = .ok (t, v) := by
    cases made
    exact ⟨_, _, rfl⟩
  obtain ⟨numbers, u, ofNumber⟩ : ∃ t v,
      u₂.optionalOf (NumericKind.integer .int64).descriptor = .ok (t, v) := by
    cases made
    cases ofPrice
    exact ⟨_, _, rfl⟩
  have lifted : (match ((classify {} u {} ({} : HostRegistry (StateM Unit)) prices numbers).run
      ()).1.1 with
      | .convertible ⟨_, _, .userDefined _ unwraps wraps _ _ _⟩ => unwraps && wraps
      | _ => false) = true := by
    cases made
    cases ofPrice
    cases ofNumber
    decide +kernel
  rcases found : (classify {} u {} ({} : HostRegistry (StateM Unit)) prices numbers).run ()
    with ⟨⟨answer, operators⟩, state⟩
  rw [found] at lifted
  split at lifted
  · rename_i same
    cases same
    obtain ⟨rfl, rfl⟩ := Bool.and_eq_true_iff.mp lifted
    obtain ⟨computed, empty⟩ := convert_eq_meaning found .checked .empty
    have empty := empty _ _ _ _ rfl rfl
    exact ⟨u, _, rfl, empty, computed ▸ empty⟩
  · cases lifted

end TypeConversion
