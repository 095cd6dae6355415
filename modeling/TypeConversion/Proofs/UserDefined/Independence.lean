import TypeConversion.Proofs.UserDefined.Growth
import TypeConversion.Proofs.UserDefined.Reordering

/-!
# What a resolution does not depend on

* `Operator.Unrelated u s t o`: on one of its sides, the operator does not relate to the request.
* `resolveUserDefined_addOperator`: such an operator makes no difference to the request. It is
  skipped among the operators that the request can use, which are otherwise found in the same order.
* `resolve_independent`: by way of any caches, neither the order in which operators are declared nor
  an operator that does not relate to the request makes a difference.
-/

namespace TypeConversion

open Universe

variable {u v : Universe} {s t : TypeDescriptor} {o : Operator}

/-- On one of its sides, the operator does not relate to the request, lifted over the optionals of
the request where it takes or gives plain values. -/
def Operator.Unrelated (u : Universe) (s t : TypeDescriptor) (o : Operator) : Prop :=
  ∀ input ∈ u, ∀ output ∈ u, input.token = o.input → output.token = o.output →
    let unwraps := Candidate.lifts s input
    let wraps := unwraps && Candidate.lifts t output
    (∀ r, ¬Relates u (if unwraps then u.unwrapOptional s else s) input r) ∨
      ∀ r, ¬Relates u output (if wraps then u.unwrapOptional t else t) r

/-- The distinct items without those of a token are the distinct ones of the others. -/
theorem Token.filter_distinct {α : Type} (token : α → Token) (k : Token) (l : List α) :
    (distinct token l).filter (fun x => token x != k)
      = distinct token (l.filter fun x => token x != k) := by
  induction l with
  | nil => rfl
  | cons x l ih =>
    by_cases here : token x = k
    · subst here
      simp [distinct, ← ih]
    · simp only [distinct, List.filter_cons, bne_iff_ne, ne_eq, here, not_false_eq_true, if_true,
        ← ih, List.filter_filter, Bool.and_comm]

namespace Universe

theorem extends_addOperator (u : Universe) (o : Operator) : u.Extends (u.addOperator o) :=
  ⟨fun _ h => h, Nat.le_refl _, List.prefix_append _ _⟩

section AddOperator

variable (hu : u.Layered) (hv : (u.addOperator o).Built) (hs : s ∈ u) (ht : t ∈ u)

include hv

/-- Without the new operator, a type declares what it declared. -/
theorem filter_operatorsDeclaredBy (b : TypeDescriptor) :
    ((u.addOperator o).operatorsDeclaredBy b).filter (fun p => p.token != o.token)
      = u.operatorsDeclaredBy b := by
  have new : ∀ p ∈ u.operators, p.token ≠ o.token := by
    have nodup := hv.nodup_operators
    rw [addOperator, List.map_append, List.nodup_append] at nodup
    exact fun p hp => nodup.2.2 _ (List.mem_map_of_mem hp) _ (by simp)
  have kept : u.operators.filter (fun p => p.token != o.token) = u.operators :=
    List.filter_eq_self.mpr fun p hp => by simpa using new p hp
  rw [operatorsDeclaredBy, List.filter_comm, addOperator, List.filter_append, kept]
  simp [operatorsDeclaredBy]

include hu

/-- Without the new operator, the operators visible on a type are those that were. -/
theorem filter_visibleOperators (ht : t ∈ u) :
    ((u.addOperator o).visibleOperators t).filter (fun p => p.token != o.token)
      = u.visibleOperators t := by
  rw [visibleOperators, Token.filter_distinct, List.filter_flatMap,
    ancestors_extends hu (u.extends_addOperator o) ht]
  simp only [filter_operatorsDeclaredBy hv]
  rfl

include hs ht

/-- Without the new operator, the operators that a request can use are those that it could. -/
theorem filter_operatorPool :
    ((u.addOperator o).operatorPool s t).filter (fun p => p.token != o.token)
      = u.operatorPool s t := by
  have le := u.extends_addOperator o
  rw [operatorPool, Token.filter_distinct, List.filter_append, unwrapOptional_extends hu le hs,
    unwrapOptional_extends hu le ht, filter_visibleOperators hu hv (unwrapOptional_mem hu hs),
    filter_visibleOperators hu hv (unwrapOptional_mem hu ht)]
  rfl

end AddOperator

/-- An operator that does not relate to the request is no candidate. -/
theorem ofOperator?_unrelated (hu : u.Layered) (hs : s ∈ u) (ht : t ∈ u)
    (unrelated : o.Unrelated u s t) : Candidate.ofOperator? (u.addOperator o) s t o = none := by
  have le := u.extends_addOperator o
  by_contra some
  obtain ⟨c, fits⟩ := Option.ne_none_iff_exists'.mp some
  obtain ⟨rfl, fits⟩ := Candidate.ofOperator?_eq_some.mp fits
  have input : c.input ∈ u := fits.input_mem
  have output : c.output ∈ u := fits.output_mem
  have source : c.source = if c.unwraps then u.unwrapOptional s else s := by
    rw [fits.source, unwrapOptional_extends hu le hs]
  have target : c.target = if c.wraps then u.unwrapOptional t else t := by
    rw [fits.target, unwrapOptional_extends hu le ht]
  have sourceMem : c.source ∈ u := source ▸ ite_unwrapOptional_mem hu hs _
  have targetMem : c.target ∈ u := target ▸ ite_unwrapOptional_mem hu ht _
  have toInput : Relates u c.source c.input c.toInput := by
    rw [← relates_iff sourceMem input, ← relate?_extends hu le sourceMem input]
    exact fits.toInput
  have fromOutput : Relates u c.output c.target c.fromOutput := by
    rw [← relates_iff output targetMem, ← relate?_extends hu le output targetMem]
    exact fits.fromOutput
  rcases unrelated c.input input c.output output fits.input_token fits.output_token with
    noInput | noOutput
  · rw [source, fits.unwraps] at toInput
    exact noInput _ toInput
  · rw [target, fits.wraps, fits.unwraps] at fromOutput
    exact noOutput _ fromOutput

end Universe

/-- The candidates are those that there were, in the same order. -/
theorem candidates_addOperator (hu : u.Built) (hv : (u.addOperator o).Built) (hs : s ∈ u)
    (ht : t ∈ u) (unrelated : o.Unrelated u s t) :
    Resolution.candidates (u.addOperator o) ((u.addOperator o).operatorPool s t) s t
      = Resolution.candidates u (u.operatorPool s t) s t := by
  have layered := hu.wellFormed.toLayered
  have le := u.extends_addOperator o
  let fits := Candidate.ofOperator? (u.addOperator o) s t
  have skipped : ∀ p ∈ (u.addOperator o).operatorPool s t,
      fits p = if (p.token != o.token) = true then fits p else none := by
    intro p hp
    split
    · rfl
    · rename_i same
      have same : p.token = o.token := by simpa using same
      have added : o ∈ (u.addOperator o).operators := List.mem_append_right _ List.mem_cons_self
      rw [hv.operator_inj (mem_operators_of_mem_operatorPool hp) added same]
      exact ofOperator?_unrelated layered hs ht unrelated
  calc Resolution.candidates (u.addOperator o) ((u.addOperator o).operatorPool s t) s t
      = (((u.addOperator o).operatorPool s t).filter fun p => p.token != o.token).filterMap fits :=
        (List.filterMap_congr skipped).trans List.filterMap_filter.symm
    _ = (u.operatorPool s t).filterMap fits := by rw [filter_operatorPool layered hv hs ht]
    _ = Resolution.candidates u (u.operatorPool s t) s t := by
        refine List.filterMap_congr fun p hp => ?_
        exact ofOperator?_extends hu.wellFormed le hs ht (mem_operators_of_mem_operatorPool hp)

/-- **An operator that does not relate to the request makes no difference.** -/
theorem resolveUserDefined_addOperator (hu : u.Built) (hv : (u.addOperator o).Built) (hs : s ∈ u)
    (ht : t ∈ u) (unrelated : o.Unrelated u s t) :
    (u.addOperator o).resolveUserDefined s t = u.resolveUserDefined s t := by
  rw [resolveUserDefined, resolveUserDefined, Resolution.ofPool, Resolution.ofPool,
    candidates_addOperator hu hv hs ht unrelated]
  refine Resolution.choose_extends hu.wellFormed.toLayered (u.extends_addOperator o) fun c hc => ?_
  obtain ⟨-, fits⟩ := Resolution.mem_candidates_iff.mp hc
  exact ⟨fits.input_mem, fits.output_mem⟩

/-- **A resolution depends neither on the order in which operators are declared nor on operators
that do not relate to the request**, whatever the caches have been asked before. -/
theorem resolve_independent {operators : OperatorCache} (run : operators.Reached u) (hs : s ∈ u)
    (ht : t ∈ u) :
    (∀ (v : Universe) (operators' : OperatorCache), operators'.Reached v → u.Reorders v →
        (operators.resolve u s t).1.Agrees (operators'.resolve v s t).1) ∧
      ∀ (declaring input output : Token) (isImplicit : Bool) (procedure : Procedure) (o : Operator)
        (v : Universe) (operators' : OperatorCache),
        u.declareOperator declaring input output isImplicit procedure = .ok (o, v) →
        operators'.Reached v → o.Unrelated u s t →
        (operators'.resolve v s t).1 = (operators.resolve u s t).1 := by
  obtain ⟨built, coherent⟩ := run.coherent
  rw [coherent.resolve_eq built.wellFormed.toLayered hs ht]
  refine ⟨fun v operators' run' reorders => ?_,
    fun _ _ _ _ _ o v operators' declared run' unrelated => ?_⟩
  · obtain ⟨built', coherent'⟩ := run'.coherent
    rw [coherent'.resolve_eq built'.wellFormed.toLayered (reorders.mem_iff.mpr hs)
      (reorders.mem_iff.mpr ht)]
    exact reorders.agrees built built' hs ht
  · obtain ⟨_, _, -, rfl⟩ := declareOperator_eq_ok declared
    obtain ⟨built', coherent'⟩ := run'.coherent
    rw [coherent'.resolve_eq built'.wellFormed.toLayered hs ht]
    exact resolveUserDefined_addOperator built built' hs ht unrelated

/-- A price with an operator to numbers, with another operator to texts after it, and with the two
the other way round. -/
theorem exists_prices : ∃ (u v w : Universe) (s : TypeDescriptor) (o : Operator),
    u.Built ∧ v.Built ∧ w.Built ∧ s ∈ u ∧ v.Reorders w ∧
      u.declareOperator s.token s.token FrameworkType.string.token false (fun _ => .ok .null)
        = .ok (o, v) ∧
      o.output = FrameworkType.string.token ∧
      relate? u FrameworkType.string.descriptor (NumericKind.integer .int64).descriptor = none ∧
      (v.operators.map Operator.output).reverse = w.operators.map Operator.output ∧
      ∃ conversion, (({} : OperatorCache).resolve u s (NumericKind.integer .int64).descriptor).1
        = .found conversion := by
  let number := (NumericKind.integer .int32).descriptor
  let text := FrameworkType.string.descriptor
  let toNumber : Procedure := fun _ => .ok (.number (.integer ⟨.int32, 7, by decide, by decide⟩))
  let start := Declaration.start .initial
  let d := start.1.asValueType "Shop" "Price"
  have allocated : start.2.Allocated d.token := ⟨_, by decide, by decide, rfl⟩
  have described : d.Described d.token := .asValueType _ _ .start
  have begun : start.2.Built := .step .initial .allocate (by constructor <;> decide)
  obtain ⟨s, u₀, made⟩ : ∃ t v, d.build start.2 = (.ok t, v) := ⟨_, _, rfl⟩
  obtain ⟨a, u, numbers⟩ : ∃ a v,
      u₀.declareOperator s.token s.token number.token true toNumber = .ok (a, v) := by
    cases made
    exact ⟨_, _, rfl⟩
  obtain ⟨o, v, texts⟩ : ∃ o v,
      u.declareOperator s.token s.token text.token false (fun _ => .ok .null) = .ok (o, v) := by
    cases made
    cases numbers
    exact ⟨_, _, rfl⟩
  obtain ⟨o', u', textsFirst⟩ : ∃ o v,
      u₀.declareOperator s.token s.token text.token false (fun _ => .ok .null) = .ok (o, v) := by
    cases made
    exact ⟨_, _, rfl⟩
  obtain ⟨a', w, numbersThen⟩ : ∃ a v,
      u'.declareOperator s.token s.token number.token true toNumber = .ok (a, v) := by
    cases made
    cases textsFirst
    exact ⟨_, _, rfl⟩
  have rows : u₀.WithinRows ∧ u.WithinRows ∧ v.WithinRows ∧ u'.WithinRows ∧ w.WithinRows := by
    cases made
    cases numbers
    cases texts
    cases textsFirst
    cases numbersThen
    exact ⟨by constructor <;> decide, by constructor <;> decide, by constructor <;> decide,
      by constructor <;> decide, by constructor <;> decide⟩
  obtain ⟨rows₀, rowsU, rowsV, rowsU', rowsW⟩ := rows
  have built₀ : u₀.Built := by
    have step := Step.build d allocated described
    rw [made] at step
    exact .step begun step rows₀
  have builtU : u.Built := .step built₀ (.declareOperator numbers) rowsU
  have builtV : v.Built := .step builtU (.declareOperator texts) rowsV
  have builtW : w.Built :=
    .step (.step built₀ (.declareOperator textsFirst) rowsU') (.declareOperator numbersThen) rowsW
  have resolved : (match (({} : OperatorCache).resolve u s
      (NumericKind.integer .int64).descriptor).1 with
      | .found _ => true
      | _ => false) = true := by
    cases made
    cases numbers
    decide +kernel
  have outcome : ∃ conversion, (({} : OperatorCache).resolve u s
      (NumericKind.integer .int64).descriptor).1 = .found conversion := by
    split at resolved
    · rename_i conversion found
      exact ⟨conversion, found⟩
    · cases resolved
  refine ⟨u, v, w, s, o, builtU, builtV, builtW, ?_, ?_, texts, ?_, ?_, ?_, outcome⟩
  all_goals
    cases made
    cases numbers
    cases texts
    cases textsFirst
    cases numbersThen
  · decide
  · exact ⟨fun _ => rfl, .swap _ _ _⟩
  · rfl
  · rw [← Option.isNone_iff_eq_none]
    decide +kernel
  · rfl

/-- A price converts to numbers of a wider kind by its operator to numbers, whether or not it also
has an operator to texts, and whichever was declared first. -/
theorem resolve_independent_price : ∃ (u v w : Universe) (s : TypeDescriptor)
    (conversion : UserDefinedConversion), v.operators.length = u.operators.length + 1 ∧
      (v.operators.map Operator.output).reverse = w.operators.map Operator.output ∧
      (({} : OperatorCache).resolve u s (NumericKind.integer .int64).descriptor).1
        = .found conversion ∧
      (({} : OperatorCache).resolve v s (NumericKind.integer .int64).descriptor).1
        = .found conversion ∧
      (Resolution.found conversion).Agrees
        (({} : OperatorCache).resolve w s (NumericKind.integer .int64).descriptor).1 := by
  let t := (NumericKind.integer .int64).descriptor
  obtain ⟨u, v, w, s, o, builtU, builtV, builtW, hs, reorders, declared, output, none, reversed,
    conversion, found⟩ := exists_prices
  have layered := builtU.wellFormed.toLayered
  have ht : t ∈ u := layered.numeric _
  have htext := layered.framework .string
  have unrelated : o.Unrelated u s t := by
    intro _ _ text hText _ isText
    refine .inr fun r relates => ?_
    obtain rfl := eq_of_token_eq hText htext (isText.trans output)
    have self : u.unwrapOptional t = t := unwrapOptional_of_not_optional rfl
    rw [self, ite_self, ← relates_iff htext ht, none] at relates
    cases relates
  obtain ⟨_, _, -, rfl⟩ := declareOperator_eq_ok declared
  have found' := (resolve_independent (.fresh builtU) hs ht).2 _ _ _ _ _ o _ {} declared
    (.fresh builtV) unrelated
  have agrees := (resolve_independent (.fresh builtV) hs ht).1 w {} (.fresh builtW) reorders
  rw [found', found] at agrees
  exact ⟨u, u.addOperator o, w, s, conversion, by simp [addOperator], reversed, found,
    found'.trans found, agrees⟩

end TypeConversion
