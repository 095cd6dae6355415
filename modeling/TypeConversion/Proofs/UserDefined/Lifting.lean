import TypeConversion.Proofs.UserDefined.Choice
import TypeConversion.Proofs.Program.Optionals

/-!
# User-defined conversions of optionals

Where the operators that two value types can use have plain value types on both sides, a request
between the optionals of the two types is resolved as the request between the types is, by operators
that are lifted over both optionals.

* `Universe.SeesPlain u s t`: the assumption on the operators.
* `UserDefinedConversion.lifted` and `Resolution.lifted`: the same conversion, and the same outcome,
  over optionals.
* `ofOperator?_optionals`: an operator is a candidate for the optionals where it is one for the
  types, with both flags set.
* `choose_lifted`: the choice looks at the types and relations of candidates. It looks at the flags
  only to prefer what is not lifted, which none is or all are.
* `resolveUserDefined_optionals` and `convert_lifted`: so the outcomes agree, and the lifted
  conversion does with a present value what the conversion does with its content.
* `resolve_optionals`: the same by way of caches, for the pairs that the conversions classify.
-/

namespace TypeConversion

open Universe

/-- The operators that a request between two types can use have value types that are no optionals on
both sides. -/
def Universe.SeesPlain (u : Universe) (s t : TypeDescriptor) : Prop :=
  ∀ o, u.Sees s o ∨ u.Sees t o → ∀ a ∈ u, a.token = o.input ∨ a.token = o.output → a.IsContent

/-- The conversion lifted over both optionals. -/
def UserDefinedConversion.lifted (c : UserDefinedConversion) : UserDefinedConversion :=
  { c with unwraps := true, wraps := true }

/-- The outcome for the optionals: the same operators, lifted where one is found. -/
def Resolution.lifted : Resolution → Resolution
  | .found conversion => .found conversion.lifted
  | .ambiguous operators => .ambiguous operators
  | .notFound => .notFound

/-- The candidate lifted over both optionals. -/
def Candidate.lifted (c : Candidate) : Candidate := { c with unwraps := true, wraps := true }

variable {u : Universe} {a b s t s' t' : TypeDescriptor} {o : Operator} {c : Candidate}
  {x y : Execution}

/-! ## Candidates -/

namespace Candidate

/-- The candidate is not lifted on either side. -/
structure IsPlain (c : Candidate) : Prop where
  unwraps : c.unwraps = false
  wraps : c.wraps = false

/-- Lifted over both optionals or over none, a candidate is implicit alike. -/
theorem IsPlain.conversion_lifted (h : c.IsPlain) :
    c.lifted.conversion = c.conversion.lifted := by
  have implicit : c.lifted.isImplicit = c.isImplicit := by
    simp only [isImplicit, lifted, h.unwraps, Bool.not_true, Bool.and_false, Bool.false_and]
  simp only [conversion, UserDefinedConversion.lifted, implicit]
  rfl

/-- Nothing is lifted over a type that is no optional. -/
theorem isPlain_of_isFor (plain : s.isOptional = false) (h : c.IsFor u s t) : c.IsPlain := by
  have unwraps : c.unwraps = false := by
    rw [h.unwraps, lifts, plain, Bool.false_and, Bool.false_and]
  exact ⟨unwraps, by rw [h.wraps, unwraps, Bool.false_and]⟩

/-- An operator with plain value types is a candidate for the optionals where it is one for the
types. -/
theorem ofOperator?_optionals (os : IsOptionalIn u s' s) (ot : IsOptionalIn u t' t)
    (plain : ∀ a ∈ u, a.token = o.input ∨ a.token = o.output → a.IsContent) :
    ofOperator? u s' t' o = (ofOperator? u s t o).map lifted := by
  simp only [ofOperator?, Option.bind_eq_bind]
  cases foundInput : u.find? o.input with
  | none => rfl
  | some input =>
    cases foundOutput : u.find? o.output with
    | none => rfl
    | some output =>
      obtain ⟨hi, ti⟩ := mem_of_find?_eq_some foundInput
      obtain ⟨ho, to_⟩ := mem_of_find?_eq_some foundOutput
      obtain ⟨valueI, plainI⟩ := plain input hi (.inl ti)
      obtain ⟨valueO, plainO⟩ := plain output ho (.inr to_)
      have liftsS' : lifts s' input = true := by simp [lifts, os.isOptional, valueI, plainI]
      have liftsT' : lifts t' output = true := by simp [lifts, ot.isOptional, valueO, plainO]
      have liftsS : lifts s input = false := by simp [lifts, os.plain]
      simp only [Option.bind_some, liftsS', liftsT', liftsS, Bool.and_self, Bool.false_and, if_true,
        Bool.false_eq_true, if_false, os.unwrapOptional_eq, ot.unwrapOptional_eq]
      cases relate? u s input with
      | none => rfl
      | some toInput =>
        cases relate? u output t with
        | none => rfl
        | some fromOutput => rfl

end Candidate

/-! ## The choice -/

namespace Resolution

variable {candidates : List Candidate}

section Side

variable {closeness : Candidate → Closeness} {flag : Candidate → Bool}
  {type : Candidate → TypeDescriptor} {related : TypeDescriptor → TypeDescriptor → Bool}
  (sameCloseness : ∀ c : Candidate, closeness c.lifted = closeness c)
  (sameType : ∀ c : Candidate, type c.lifted = type c)

include sameCloseness

theorem closest_lifted :
    closest closeness (candidates.map Candidate.lifted) = closest closeness candidates := by
  simp only [closest, List.any_map, Function.comp_def, sameCloseness]

theorem filter_lifted (k : Closeness) :
    (candidates.map Candidate.lifted).filter (fun c => closeness c == k)
      = (candidates.filter fun c => closeness c == k).map Candidate.lifted := by
  simp only [List.filter_map, Function.comp_def, sameCloseness]

include sameType

/-- Where the candidates are all lifted or none is, the first exact one has the type. -/
theorem exactType?_lifted (lifted : ∀ c : Candidate, flag c.lifted = true)
    (plain : ∀ c ∈ candidates, flag c = false) :
    exactType? closeness flag type (candidates.map Candidate.lifted)
      = exactType? closeness flag type candidates := by
  rw [exactType?, exactType?, filter_lifted sameCloseness]
  cases near : candidates.filter fun c => closeness c == .exact with
  | nil => rfl
  | cons first rest =>
    have mem : first ∈ candidates.filter fun c => closeness c == .exact :=
      near ▸ List.mem_cons_self
    have noLift : flag first = false := plain first (List.mem_filter.mp mem).1
    have noPlain : ((first :: rest).map Candidate.lifted).find? (fun c => !flag c) = none := by
      simp [lifted]
    rw [noPlain, List.find?_cons_of_pos (by simp [noLift])]
    exact congrArg (fun x => some x.token) (sameType first)

/-- Lifted over both optionals or over none, the candidates have the same type chosen. -/
theorem chosenType?_lifted (lifted : ∀ c : Candidate, flag c.lifted = true)
    (plain : ∀ c ∈ candidates, flag c = false) :
    chosenType? closeness flag type related (candidates.map Candidate.lifted)
      = chosenType? closeness flag type related candidates := by
  have types : ∀ l : List Candidate, typesOf type (l.map Candidate.lifted) = typesOf type l :=
    fun l => by simp only [typesOf, List.map_map, Function.comp_def, sameType]
  simp only [chosenType?, closest_lifted sameCloseness, filter_lifted sameCloseness, types,
    exactType?_lifted sameCloseness sameType lifted plain]

end Side

/-- **The choice among lifted candidates** is the choice among the candidates, lifted. -/
theorem choose_lifted (plain : ∀ c ∈ candidates, c.IsPlain) :
    choose u (candidates.map Candidate.lifted) = (choose u candidates).lifted := by
  have input : inputType? u (candidates.map Candidate.lifted) = inputType? u candidates :=
    chosenType?_lifted (fun _ => rfl) (fun _ => rfl) (fun _ => rfl) fun c hc => (plain c hc).unwraps
  have output : outputType? u (candidates.map Candidate.lifted) = outputType? u candidates :=
    chosenType?_lifted (fun _ => rfl) (fun _ => rfl) (fun _ => rfl) fun c hc => (plain c hc).wraps
  have operators : ∀ l : List Candidate,
      (l.map Candidate.lifted).map Candidate.operator = l.map Candidate.operator :=
    fun l => List.map_map
  rw [choose, choose, List.isEmpty_map, input, output]
  split
  · rfl
  split
  · rename_i i o _ _
    have chosen : (candidates.map Candidate.lifted).filter
          (fun c => c.input.token == i && c.output.token == o)
        = (candidates.filter fun c => c.input.token == i && c.output.token == o).map
          Candidate.lifted := List.filter_map
    rw [chosen]
    cases found : candidates.filter fun c => c.input.token == i && c.output.token == o with
    | nil => exact congrArg ambiguous (operators candidates)
    | cons winner rest =>
      have mem : winner ∈ candidates.filter fun c => c.input.token == i && c.output.token == o :=
        found ▸ List.mem_cons_self
      have isPlain := plain winner (List.mem_filter.mp mem).1
      cases rest with
      | nil => exact congrArg Resolution.found isPlain.conversion_lifted
      | cons second rest => exact congrArg ambiguous (operators (winner :: second :: rest))
  · exact congrArg ambiguous (operators candidates)

end Resolution

/-- **A request between optionals** is resolved as the request between their elements, lifted. -/
theorem resolveUserDefined_optionals (hu : u.Built) (hs : s ∈ u) (ht : t ∈ u)
    (os : IsOptionalIn u s' s) (ot : IsOptionalIn u t' t) (plain : u.SeesPlain s t) :
    u.resolveUserDefined s' t' = (u.resolveUserDefined s t).lifted := by
  have unwrapS : u.unwrapOptional s = s := unwrapOptional_of_not_optional os.plain
  have unwrapT : u.unwrapOptional t = t := unwrapOptional_of_not_optional ot.plain
  have pool : u.operatorPool s' t' = u.operatorPool s t := by
    rw [operatorPool, operatorPool, os.unwrapOptional_eq, ot.unwrapOptional_eq, unwrapS, unwrapT]
  have lifted : Resolution.candidates u (u.operatorPool s t) s' t'
      = (Resolution.candidates u (u.operatorPool s t) s t).map Candidate.lifted := by
    rw [Resolution.candidates, Resolution.candidates, List.map_filterMap]
    refine List.filterMap_congr fun o ho => Candidate.ofOperator?_optionals os ot (plain o ?_)
    rw [mem_operatorPool_iff hu hs ht, unwrapS, unwrapT] at ho
    exact ho
  rw [resolveUserDefined, resolveUserDefined, Resolution.ofPool, Resolution.ofPool, pool, lifted]
  refine Resolution.choose_lifted fun c hc => ?_
  exact Candidate.isPlain_of_isFor os.plain (Resolution.mem_candidates_iff.mp hc).2

/-! ## Conversions -/

/-- What leads from one content to another does not depend on what the conversion is for. -/
theorem Splice.Connects.meaning_eq (hu : u.Layered) (ha : a ∈ u) (hb : b ∈ u)
    (contentA : a.IsContent) (contentB : b.IsContent) {splice : Splice}
    (h : splice.Connects u a b) (same : x.overflow = y.overflow) :
    splice.meaning x = splice.meaning y := by
  funext v
  cases h with
  | absent => rw [Splice.meaning, Splice.meaning]
  | along found =>
    rw [classifyStandard_contents hu ha hb contentA contentB] at found
    have content := (contentRule_of_classifyContent found).isContent
    rw [Splice.meaning, Splice.meaning, content.meaning_eq same]

namespace UserDefinedConversion

variable {conversion : UserDefinedConversion} {mode : OverflowMode}

/-- What the conversion does with a value, or with the content where it is lifted. -/
def apply (x : Execution) (c : UserDefinedConversion) : Value → Except Error Value :=
  followedBy (c.before.meaning x) (followedBy c.operator.procedure (c.after.meaning x))

/-- A conversion between contents does not depend on what it is for. -/
theorem apply_eq (hu : u.Layered) (hs : s ∈ u) (ha : a ∈ u) (hb : b ∈ u) (ht : t ∈ u)
    (contentS : s.IsContent) (contentA : a.IsContent) (contentB : b.IsContent)
    (contentT : t.IsContent) (before : conversion.before.Connects u s a)
    (after : conversion.after.Connects u b t) (same : x.overflow = y.overflow) :
    conversion.apply x = conversion.apply y := by
  rw [apply, apply, before.meaning_eq hu hs ha contentS contentA same,
    after.meaning_eq hu hb ht contentB contentT same]

/-- The converter of a regular conversion applies it through optionals, as far as it is lifted. -/
theorem convert_eq (regular : conversion.conversion.IsRegular) (v : Value) :
    (Converter.ofPlan u ⟨s, t, conversion.conversion⟩ mode).convert u v
      = convertThrough t.fullName conversion.unwraps conversion.wraps
        (conversion.apply ⟨u, mode, t.fullName⟩) v := by
  refine (Conversion.computes_program (x := ⟨u, mode, t.fullName⟩) s t _ regular v).trans ?_
  rw [UserDefinedConversion.conversion, Conversion.meaning]
  rfl

/-- A conversion that is lifted over both optionals is as regular as the conversion is. -/
theorem isRegular_lifted (regular : conversion.conversion.IsRegular) :
    conversion.lifted.conversion.IsRegular := by
  obtain ⟨-, before, after⟩ := regular
  exact ⟨fun _ => rfl, before, after⟩

end UserDefinedConversion

/-- **A lifted conversion** leaves the empty optional empty, and does with a present value what the
conversion does with its content. -/
theorem convert_lifted (hu : u.Built) (hs : s ∈ u) (ht : t ∈ u) (os : IsOptionalIn u s' s)
    (ot : IsOptionalIn u t' t) (fits : c.IsFor u s t) (contentI : c.input.IsContent)
    (contentO : c.output.IsContent) (preserves : c.operator.Preserves u) (mode : OverflowMode) :
    (Converter.ofPlan u ⟨s', t', c.conversion.lifted.conversion⟩ mode).convert u .empty
        = .ok .empty ∧
      ∀ v, WellTyped u v s →
        (Converter.ofPlan u ⟨s', t', c.conversion.lifted.conversion⟩ mode).convert u (.present v)
          = ((Converter.ofPlan u ⟨s, t, c.conversion.conversion⟩ mode).convert u v).map
              .present := by
  have wellFormed := hu.wellFormed
  have layered := wellFormed.toLayered
  obtain ⟨unwraps, wraps⟩ := Candidate.isPlain_of_isFor os.plain fits
  have before := fits.before_connects layered hs
  have after := fits.after_connects layered ht
  rw [fits.source, unwraps, if_neg Bool.false_ne_true] at before
  rw [fits.target, wraps, if_neg Bool.false_ne_true] at after
  let x : Execution := ⟨u, mode, t.fullName⟩
  have plainly : ∀ v, (Converter.ofPlan u ⟨s, t, c.conversion.conversion⟩ mode).convert u v
      = c.conversion.apply x v := by
    intro v
    have flags : c.conversion.unwraps = false ∧ c.conversion.wraps = false := ⟨unwraps, wraps⟩
    rw [UserDefinedConversion.convert_eq fits.isRegular, flags.1, flags.2]
    rfl
  have lifted : ∀ v,
      (Converter.ofPlan u ⟨s', t', c.conversion.lifted.conversion⟩ mode).convert u v
        = convertThrough t'.fullName true true (c.conversion.apply x) v := by
    intro v
    have same : c.conversion.apply x = c.conversion.apply ⟨u, mode, t'.fullName⟩ :=
      UserDefinedConversion.apply_eq layered hs fits.input_mem fits.output_mem ht os.content
        contentI contentO ot.content before after rfl
    rw [same]
    exact UserDefinedConversion.convert_eq (UserDefinedConversion.isRegular_lifted fits.isRegular) v
  refine ⟨lifted .empty, fun v typed => ?_⟩
  have yields : Yields u (some c.operator.procedure) t (c.conversion.apply x v) := by
    rw [← plainly]
    exact sound_userDefined (x := x) wellFormed hs ht fits preserves v typed
  rw [lifted, plainly]
  exact yields.map_wrap ot.content

/-- A pair with a user-defined conversion and no standard one is classified by it, without asking
the host. -/
theorem classify_of_found {m : Type → Type} [Monad m] {config : Configuration}
    {operators : OperatorCache} {conversion : UserDefinedConversion} (host : HostRegistry m)
    (userDefined : config.userDefined = true) (absent : classifyStandard u s t = none)
    (found : (operators.resolve u s t).1 = .found conversion) :
    classify config u operators host s t
      = pure (.convertible ⟨s, t, conversion.conversion⟩, (operators.resolve u s t).2) := by
  rw [classify, absent, resolveConfigured, if_pos userDefined]
  rcases resolved : operators.resolve u s t with ⟨outcome, operators'⟩
  rw [resolved] at found
  cases found
  rfl

/-- A price that converts to numbers of one kind by an operator, with its optional and that of
numbers of a wider kind. -/
theorem exists_price : ∃ (u : Universe) (s t s' t' : TypeDescriptor), u.Built ∧
    (s ∈ u ∧ t ∈ u ∧ s' ∈ u ∧ t' ∈ u) ∧ IsOptionalIn u s' s ∧ IsOptionalIn u t' t ∧
      s.kind = .struct ∧ u.SeesPlain s t ∧ (∀ o ∈ u.operators, o.Preserves u) ∧
      classifyStandard u s t = none ∧
      ∃ conversion, (({} : OperatorCache).resolve u s t).1 = .found conversion := by
  let number := (NumericKind.integer .int32).descriptor
  let t := (NumericKind.integer .int64).descriptor
  let seven : Procedure := fun _ => .ok (.number (.integer ⟨.int32, 7, by decide, by decide⟩))
  let start := Declaration.start .initial
  let d := (start.1.asValueType "Shop" "Price").withOperator
    { input := start.1.token, output := number.token, isImplicit := true, procedure := seven }
  have allocated : start.2.Allocated d.token := ⟨_, by decide, by decide, rfl⟩
  have described : d.Described d.token := .withOperator _ (.asValueType _ _ .start)
  have begun : start.2.Built := .step .initial .allocate (by constructor <;> decide)
  obtain ⟨s, u₁, made⟩ : ∃ t v, d.build start.2 = (.ok t, v) := ⟨_, _, rfl⟩
  obtain ⟨s', u₂, ofPrice⟩ : ∃ a v, u₁.optionalOf s = .ok (a, v) := by
    cases made
    exact ⟨_, _, rfl⟩
  obtain ⟨t', u, ofNumber⟩ : ∃ a v, u₂.optionalOf t = .ok (a, v) := by
    cases made
    cases ofPrice
    exact ⟨_, _, rfl⟩
  have known : (u₁.WithinRows ∧ u₂.WithinRows ∧ u.WithinRows) ∧ (s ∈ u₁ ∧ s ∈ u ∧ s' ∈ u) ∧
      IsOptionalIn u s' s ∧ s.kind = .struct ∧ classifyContent s t = none ∧ ∀ o ∈ u.operators,
        o.input = s.token ∧ o.output = number.token ∧ o.procedure = seven := by
    cases made
    cases ofPrice
    cases ofNumber
    refine ⟨⟨?_, ?_, ?_⟩, by decide, ?_, rfl, rfl, fun o ho => ?_⟩
    · constructor <;> decide
    · constructor <;> decide
    · constructor <;> decide
    · constructor <;> decide
    · obtain rfl := List.mem_singleton.mp ho
      exact ⟨rfl, rfl, rfl⟩
  obtain ⟨⟨rows₁, rows₂, rows⟩, ⟨price, hs, hs'⟩, os, kind, noContent, declared⟩ := known
  have built₁ : u₁.Built := by
    have step := Step.build d allocated described
    rw [made] at step
    exact .step begun step rows₁
  obtain ⟨built₂, -, -⟩ := built₁.optionalOf price ofPrice rows₂
  obtain ⟨built, ht', ot⟩ := built₂.optionalOf (built₂.wellFormed.numeric _) ofNumber rows
  have ht : t ∈ u := built.wellFormed.numeric _
  have hnumber : number ∈ u := built.wellFormed.numeric _
  refine ⟨u, s, t, s', t', built, ⟨hs, ht, hs', ht'⟩, os, ot, kind, ?_, ?_, ?_, ?_⟩
  · intro o seen a ha role
    obtain ⟨input, output, -⟩ := declared o (seen.elim And.left And.left)
    rcases role with same | same
    · obtain rfl := eq_of_token_eq ha hs (same.trans input)
      exact os.content
    · obtain rfl := eq_of_token_eq ha hnumber (same.trans output)
      exact ⟨rfl, rfl⟩
  · intro o ho a _ b hb _ same v w _ given
    obtain ⟨-, output, procedure⟩ := declared o ho
    obtain rfl := eq_of_token_eq hb hnumber (same.trans output)
    rw [procedure] at given
    cases given
    rfl
  · rw [classifyStandard_contents_of_optionals built.wellFormed.toLayered hs ht os ot, noContent]
  · have resolved : (match (({} : OperatorCache).resolve u s t).1 with
        | .found _ => true
        | _ => false) = true := by
      cases made
      cases ofPrice
      cases ofNumber
      decide +kernel
    split at resolved
    · rename_i conversion found
      exact ⟨conversion, found⟩
    · cases resolved

/-- **Lifted operators commute with optionals.** Let the operators that two value types can use have
plain value types on both sides. By way of any caches that runs lead to, the request between the
optionals of the two types has the outcome of the request between the types, lifted. Where that is a
conversion that classifies both pairs, and its operator keeps to its types, converting a present
value gives what converting its content gives, as a present value or the same error, and the empty
optional stays empty. -/
theorem resolve_optionals {m : Type → Type} [Monad m] {operators operators' : OperatorCache}
    (run : operators.Reached u) (run' : operators'.Reached u) (hs : s ∈ u) (ht : t ∈ u)
    (hs' : s' ∈ u) (ht' : t' ∈ u) (os : IsOptionalIn u s' s) (ot : IsOptionalIn u t' t)
    (plain : u.SeesPlain s t) :
    (operators'.resolve u s' t').1 = (operators.resolve u s t).1.lifted ∧
      ∀ conversion : UserDefinedConversion, (operators.resolve u s t).1 = .found conversion →
        classifyStandard u s t = none → conversion.operator.Preserves u →
        let plan : Plan := ⟨s, t, conversion.conversion⟩
        let plan' : Plan := ⟨s', t', conversion.lifted.conversion⟩
        (∀ (config : Configuration) (host : HostRegistry m), config.userDefined = true →
          classify config u operators host s t
              = pure (.convertible plan, (operators.resolve u s t).2) ∧
            classify config u operators' host s' t'
              = pure (.convertible plan', (operators'.resolve u s' t').2)) ∧
          ∀ mode, (Converter.ofPlan u plan' mode).convert u .empty = .ok .empty ∧
            ∀ v, WellTyped u v s → (Converter.ofPlan u plan' mode).convert u (.present v)
              = ((Converter.ofPlan u plan mode).convert u v).map .present := by
  obtain ⟨built, coherent⟩ := run.coherent
  obtain ⟨-, coherent'⟩ := run'.coherent
  have layered := built.wellFormed.toLayered
  have lifted : (operators'.resolve u s' t').1 = (operators.resolve u s t).1.lifted := by
    rw [coherent'.resolve_eq layered hs' ht', coherent.resolve_eq layered hs ht]
    exact resolveUserDefined_optionals built hs ht os ot plain
  refine ⟨lifted, fun conversion found absent preserves => ⟨fun config host userDefined => ?_, ?_⟩⟩
  · have absent' : classifyStandard u s' t' = none := by
      have agree := (formsAgree layered hs ht hs' ht' os ot).lifts_isSome
      rw [absent] at agree
      exact Option.isNone_iff_eq_none.mp (Option.isSome_eq_false_iff.mp agree)
    have found' : (operators'.resolve u s' t').1 = .found conversion.lifted := by
      rw [lifted, found]
      rfl
    exact ⟨classify_of_found host userDefined absent found,
      classify_of_found host userDefined absent' found'⟩
  · obtain ⟨c, sees, fits, rfl⟩ := OperatorCache.exists_candidate_of_resolve run hs ht found
    rw [unwrapOptional_of_not_optional os.plain, unwrapOptional_of_not_optional ot.plain] at sees
    exact convert_lifted built hs ht os ot fits
      (plain c.operator sees c.input fits.input_mem (.inl fits.input_token))
      (plain c.operator sees c.output fits.output_mem (.inr fits.output_token)) preserves

/-- An optional price converts to an optional number of a wider kind: a present price gives a
present number. -/
theorem resolve_optionals_price : ∃ (u : Universe) (s t s' t' : TypeDescriptor)
    (conversion : UserDefinedConversion), u.Built ∧ IsOptionalIn u s' s ∧ IsOptionalIn u t' t ∧
      (({} : OperatorCache).resolve u s' t').1 = .found conversion.lifted ∧
      (Converter.ofPlan u ⟨s', t', conversion.lifted.conversion⟩ .checked).convert u
          (.present (.object s.token 0 .null))
        = ((Converter.ofPlan u ⟨s, t, conversion.conversion⟩ .checked).convert u
            (.object s.token 0 .null)).map .present := by
  obtain ⟨u, s, t, s', t', built, ⟨hs, ht, hs', ht'⟩, os, ot, kind, plain, preserves, absent,
    conversion, found⟩ := exists_price
  have fresh : ({} : OperatorCache).Reached u := .fresh built
  obtain ⟨c, seen, -, same⟩ := OperatorCache.exists_candidate_of_resolve fresh hs ht found
  have declared : conversion.operator ∈ u.operators := same ▸ seen.elim And.left And.left
  obtain ⟨lifted, converts⟩ := resolve_optionals (m := Id) fresh fresh hs ht hs' ht' os ot plain
  obtain ⟨-, outcomes⟩ := converts conversion found absent (preserves _ declared)
  obtain ⟨-, present⟩ := outcomes .checked
  rw [found] at lifted
  exact ⟨u, s, t, s', t', conversion, built, os, ot, lifted, present _ (.inl ⟨kind, rfl⟩)⟩

end TypeConversion
