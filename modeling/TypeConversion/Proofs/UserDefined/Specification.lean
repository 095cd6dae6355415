import TypeConversion.Proofs.UserDefined.Candidates

/-!
# What resolution should find

The operators that apply to a request, and the one among them that a request should use, without
saying how it is found.

* `Candidate.Applies u s t c`: the operator of `c` is declared by a type of the request or a base of
  it, and relates to the request on both sides, lifted over the optionals of the request where it
  takes or gives plain values.
* `IsChoice`: the type that one side of the request should use, decided by the closest relation
  among the operators. `IsInputChoice` and `IsOutputChoice` are its two directions.
* `Resolution.Meets`: the outcomes that the request should have.

A candidate is a function of its operator (`Candidate.Applies.eq_of_operator_eq`), and each side has
at most one choice (`IsInputChoice.unique`, `IsOutputChoice.unique`).
-/

namespace TypeConversion

open Universe

variable {u : Universe} {a b s t : TypeDescriptor} {c d : Candidate} {r : TypeRelation}

/-- How one type relates to another: they are one, or a standard conversion leads from one to the
other. -/
inductive Relates (u : Universe) (a b : TypeDescriptor) : TypeRelation → Prop
  | exact (h : a = b) : Relates u a b ⟨.exact, none⟩
  | implicit {c : Conversion} (ne : a ≠ b) (h : classifyStandard u a b = some c)
      (isImplicit : c.isImplicit = true) : Relates u a b ⟨.implicit, some c⟩
  | explicit {c : Conversion} (ne : a ≠ b) (h : classifyStandard u a b = some c)
      (isExplicit : c.isImplicit = false) : Relates u a b ⟨.explicit, some c⟩

/-- One type is another or converts to it by an implicit standard conversion. -/
def ConvertsTo (u : Universe) (a b : TypeDescriptor) : Prop :=
  a = b ∨ ∃ c, classifyStandard u a b = some c ∧ c.isImplicit = true

/-- The operator of the candidate applies to the request. -/
structure Candidate.Applies (u : Universe) (s t : TypeDescriptor) (c : Candidate) : Prop where
  declared : u.Sees (u.unwrapOptional s) c.operator ∨ u.Sees (u.unwrapOptional t) c.operator
  input : c.input ∈ u ∧ c.input.token = c.operator.input
  output : c.output ∈ u ∧ c.output.token = c.operator.output
  unwraps : c.unwraps = true ↔
    s.isOptional = true ∧ c.input.isValueType = true ∧ c.input.isOptional = false
  wraps : c.wraps = true ↔ c.unwraps = true ∧
    t.isOptional = true ∧ c.output.isValueType = true ∧ c.output.isOptional = false
  source : c.source = if c.unwraps then u.unwrapOptional s else s
  target : c.target = if c.wraps then u.unwrapOptional t else t
  toInput : Relates u c.source c.input c.toInput
  fromOutput : Relates u c.output c.target c.fromOutput

/-- The only item with a property. -/
def IsOnly {α : Type} (p : α → Prop) (x : α) : Prop := p x ∧ ∀ y, p y → y = x

/-- The only one of some types that is before all of them. -/
def IsFirst (before : TypeDescriptor → TypeDescriptor → Prop) (p : TypeDescriptor → Prop) :
    TypeDescriptor → Prop :=
  IsOnly fun x => p x ∧ ∀ y, p y → before x y

/-- The type that one side of a request should use. If operators are exact on this side, it is the
type of the request if one of them is not lifted, and else its content. If the closest relation is
implicit, it is the first of the types that relate so. Else it is the last of all types. -/
inductive IsChoice (applies : Candidate → Prop) (closeness : Candidate → Closeness)
    (lifted : Candidate → Bool) (type : Candidate → TypeDescriptor)
    (request content : TypeDescriptor) (before : TypeDescriptor → TypeDescriptor → Prop)
    (x : TypeDescriptor) : Prop
  | exact {c : Candidate} (h : applies c) (near : closeness c = .exact) (plain : lifted c = false)
      (same : x = request)
  | lifted {c : Candidate} (h : applies c) (near : closeness c = .exact)
      (all : ∀ d, applies d → closeness d = .exact → lifted d = true) (same : x = content)
  | implicit {c : Candidate} (h : applies c) (near : closeness c = .implicit)
      (none : ∀ d, applies d → closeness d ≠ .exact)
      (first : IsFirst before (fun y => ∃ d, applies d ∧ closeness d = .implicit ∧ type d = y) x)
  | explicit (none : ∀ d, applies d → closeness d = .explicit)
      (last : IsFirst (fun y z => before z y) (fun y => ∃ d, applies d ∧ type d = y) x)

/-- The input type that a request should use: the first on the way from the source, or the last if
the source converts to none implicitly. -/
def IsInputChoice (u : Universe) (s t : TypeDescriptor) : TypeDescriptor → Prop :=
  IsChoice (Candidate.Applies u s t) (fun c => c.toInput.closeness) Candidate.unwraps
    Candidate.input s (u.unwrapOptional s) (ConvertsTo u)

/-- The output type that a request should use, the other way round. -/
def IsOutputChoice (u : Universe) (s t : TypeDescriptor) : TypeDescriptor → Prop :=
  IsChoice (Candidate.Applies u s t) (fun c => c.fromOutput.closeness) Candidate.wraps
    Candidate.output t (u.unwrapOptional t) fun y z => ConvertsTo u z y

/-- The operators that apply and have the chosen types. -/
def HasChosenTypes (u : Universe) (s t : TypeDescriptor) (c : Candidate) : Prop :=
  c.Applies u s t ∧ IsInputChoice u s t c.input ∧ IsOutputChoice u s t c.output

/-! ## Relations -/

theorem relates_iff (ha : a ∈ u) (hb : b ∈ u) : relate? u a b = some r ↔ Relates u a b r := by
  rw [relate?]
  constructor
  · intro h
    split at h
    · rename_i same
      cases h
      exact .exact (eq_of_token_eq ha hb same)
    · rename_i different
      have ne : a ≠ b := fun e => different (congrArg _ e)
      obtain ⟨c, standard, rfl⟩ := Option.map_eq_some_iff.mp h
      cases hc : c.isImplicit with
      | true => exact .implicit ne standard hc
      | false => exact .explicit ne standard hc
  · intro h
    cases h with
    | exact same => rw [if_pos (congrArg _ same)]
    | implicit ne standard hc | explicit ne standard hc =>
      rw [if_neg fun e => ne (eq_of_token_eq ha hb e), standard, Option.map_some, hc]
      rfl

theorem Relates.unique {r' : TypeRelation} (h : Relates u a b r) (h' : Relates u a b r') :
    r = r' := by
  cases h <;> cases h' <;> simp_all

theorem convertsImplicitly_iff (ha : a ∈ u) (hb : b ∈ u) :
    convertsImplicitly u a b = true ↔ ConvertsTo u a b := by
  have same : a.token = b.token ↔ a = b := ⟨eq_of_token_eq ha hb, congrArg _⟩
  rw [convertsImplicitly, Bool.or_eq_true, beq_iff_eq, same, ConvertsTo]
  refine or_congr_right ?_
  split <;> simp_all

/-! ## Candidates -/

namespace Candidate

theorem lifts_iff : lifts a b = true ↔
    a.isOptional = true ∧ b.isValueType = true ∧ b.isOptional = false := by
  simp [lifts, and_assoc]

/-- **The operators that apply** are the candidates of the pool. -/
theorem applies_iff (hu : u.Built) (hs : s ∈ u) (ht : t ∈ u) :
    c.Applies u s t ↔ c.operator ∈ u.operatorPool s t ∧ c.IsFor u s t := by
  have layered := hu.wellFormed.toLayered
  rw [mem_operatorPool_iff hu hs ht]
  constructor
  · intro h
    refine ⟨h.declared, h.input.1, h.input.2, h.output.1, h.output.2, ?_, ?_, h.source, h.target,
      (relates_iff ?_ h.input.1).mpr h.toInput, (relates_iff h.output.1 ?_).mpr h.fromOutput⟩
    · rw [Bool.eq_iff_iff, h.unwraps, lifts_iff]
    · rw [Bool.eq_iff_iff, h.wraps, Bool.and_eq_true, lifts_iff]
    · rw [h.source]
      exact ite_unwrapOptional_mem layered hs _
    · rw [h.target]
      exact ite_unwrapOptional_mem layered ht _
  · rintro ⟨declared, h⟩
    refine ⟨declared, ⟨h.input_mem, h.input_token⟩, ⟨h.output_mem, h.output_token⟩, ?_, ?_,
      h.source, h.target, (relates_iff (h.source_mem layered hs) h.input_mem).mp h.toInput,
      (relates_iff h.output_mem (h.target_mem layered ht)).mp h.fromOutput⟩
    · rw [h.unwraps, lifts_iff]
    · rw [h.wraps, Bool.and_eq_true, lifts_iff]

theorem Applies.operator_mem (h : c.Applies u s t) : c.operator ∈ u.operators :=
  h.declared.elim And.left And.left

/-- A candidate is a function of its operator. -/
theorem Applies.eq_of_operator_eq (h : c.Applies u s t) (h' : d.Applies u s t)
    (same : c.operator = d.operator) : c = d := by
  have input : c.input = d.input := eq_of_token_eq h.input.1 h'.input.1
    (h.input.2.trans ((congrArg Operator.input same).trans h'.input.2.symm))
  have output : c.output = d.output := eq_of_token_eq h.output.1 h'.output.1
    (h.output.2.trans ((congrArg Operator.output same).trans h'.output.2.symm))
  have unwraps : c.unwraps = d.unwraps := by
    rw [Bool.eq_iff_iff, h.unwraps, h'.unwraps, input]
  have wraps : c.wraps = d.wraps := by
    rw [Bool.eq_iff_iff, h.wraps, h'.wraps, output, unwraps]
  have source : c.source = d.source := by rw [h.source, h'.source, unwraps]
  have target : c.target = d.target := by rw [h.target, h'.target, wraps]
  have toInput : c.toInput = d.toInput := h.toInput.unique (by
    rw [source, input]
    exact h'.toInput)
  have fromOutput : c.fromOutput = d.fromOutput := h.fromOutput.unique (by
    rw [output, target]
    exact h'.fromOutput)
  cases c
  cases d
  simp_all

/-- An operator that takes exactly the source takes the type of the request, or the content of it if
it is lifted. -/
theorem Applies.input_eq (h : c.Applies u s t) (near : c.toInput.closeness = .exact) :
    c.input = if c.unwraps then u.unwrapOptional s else s := by
  rw [← h.source]
  have relates := h.toInput
  generalize c.toInput = r at relates near
  cases relates with
  | exact same => exact same.symm
  | implicit | explicit => cases near

theorem Applies.output_eq (h : c.Applies u s t) (near : c.fromOutput.closeness = .exact) :
    c.output = if c.wraps then u.unwrapOptional t else t := by
  rw [← h.target]
  have relates := h.fromOutput
  generalize c.fromOutput = r at relates near
  cases relates with
  | exact same => exact same
  | implicit | explicit => cases near

end Candidate

/-! ## Choices -/

theorem IsOnly.unique {α : Type} {p : α → Prop} {x y : α} (h : IsOnly p x) (h' : IsOnly p y) :
    x = y := h'.2 x h.1

/-- Each side has at most one choice. -/
theorem IsChoice.unique {applies : Candidate → Prop} {closeness : Candidate → Closeness}
    {lifted : Candidate → Bool} {type : Candidate → TypeDescriptor}
    {request content x y : TypeDescriptor} {before : TypeDescriptor → TypeDescriptor → Prop}
    (h : IsChoice applies closeness lifted type request content before x)
    (h' : IsChoice applies closeness lifted type request content before y) : x = y := by
  cases h with
  | exact hc near plain same =>
    cases h' with
    | exact _ _ _ same' => exact same.trans same'.symm
    | lifted _ _ all _ => simp [all _ hc near] at plain
    | implicit _ _ none _ => exact absurd near (none _ hc)
    | explicit none _ => simp [none _ hc] at near
  | lifted hc near all same =>
    cases h' with
    | exact hd near' plain _ => simp [all _ hd near'] at plain
    | lifted _ _ _ same' => exact same.trans same'.symm
    | implicit _ _ none _ => exact absurd near (none _ hc)
    | explicit none _ => simp [none _ hc] at near
  | implicit hc near none first =>
    cases h' with
    | exact hd near' _ _ => exact absurd near' (none _ hd)
    | lifted hd near' _ _ => exact absurd near' (none _ hd)
    | implicit _ _ _ first' => exact first.unique first'
    | explicit all _ => simp [all _ hc] at near
  | explicit all last =>
    cases h' with
    | exact hd near' _ _ => simp [all _ hd] at near'
    | lifted hd near' _ _ => simp [all _ hd] at near'
    | implicit hd near' _ _ => simp [all _ hd] at near'
    | explicit _ last' => exact last.unique last'

end TypeConversion
