import TypeConversion.Proofs.Soundness.Typing

/-!
# Sound instructions

A block of instructions is sound from one type to another if it takes the values of the first to
values of the second or fails for one of the reasons that a conversion can fail for.

* `Failure procedure e`: the reasons, among them the errors of the procedure that the conversion
  applies, if it applies one.
* `Sound x procedure s t block`: the block is sound from `s` to `t`.
* `Sound.append`, `Sound.lift` and the lemmas after them: blocks compose, and each instruction is
  sound between the types that it is meant for.
-/

namespace TypeConversion

open Universe

/-- The reasons for which converting a value can fail. -/
inductive Failure (procedure : Option Procedure) : Error → Prop
  | emptyOptional (target : String) : Failure procedure (.emptyOptional target)
  | nullReference (target : String) : Failure procedure (.nullReference target)
  | overflow (source target : NumericKind) : Failure procedure (.overflow source target)
  | invalidCast (source target : String) : Failure procedure (.invalidCast source target)
  | procedure {p : Procedure} {v : Value} {e : Error} (h : procedure = some p)
      (failed : p v = .error e) : Failure procedure e

/-- The outcome is a value of the type or a reason to fail. -/
def Yields (u : Universe) (procedure : Option Procedure) (t : TypeDescriptor) :
    Except Error Value → Prop
  | .ok w => WellTyped u w t
  | .error e => Failure procedure e

/-- The block takes values of one type to values of another, or fails for one of the reasons. -/
def Sound (x : Execution) (procedure : Option Procedure) (s t : TypeDescriptor)
    (block : List Instruction) : Prop :=
  ∀ v, WellTyped x.types v s → Yields x.types procedure t (Instruction.runAll x block v)

/-- The procedure gives values of one type for values of another, if it gives any. -/
def Procedure.Preserves (u : Universe) (p : Procedure) (s t : TypeDescriptor) : Prop :=
  ∀ v w, WellTyped u v s → p v = .ok w → WellTyped u w t

variable {x : Execution} {procedure : Option Procedure} {a b r s t : TypeDescriptor}
  {block rest : List Instruction} {i : Instruction} {v w : Value}

/-! ## Blocks -/

theorem Sound.nil : Sound x procedure s s [] := fun _ hv => hv

theorem Sound.cons (first : ∀ v, WellTyped x.types v s → Yields x.types procedure r (i.run x v))
    (h : Sound x procedure r t rest) : Sound x procedure s t (i :: rest) := by
  intro v hv
  have outcome := first v hv
  rw [Instruction.runAll]
  cases hrun : i.run x v with
  | ok w =>
    rw [hrun] at outcome
    exact h w outcome
  | error e =>
    rw [hrun] at outcome
    exact outcome

theorem Sound.single (first : ∀ v, WellTyped x.types v s → Yields x.types procedure t (i.run x v)) :
    Sound x procedure s t [i] := .cons first .nil

/-- Sound blocks compose. -/
theorem Sound.append (h : Sound x procedure s r block) (h' : Sound x procedure r t rest) :
    Sound x procedure s t (block ++ rest) := by
  intro v hv
  have outcome := h v hv
  rw [Instruction.runAll_append]
  cases hrun : Instruction.runAll x block v with
  | ok w =>
    rw [hrun] at outcome
    exact h' w outcome
  | error e =>
    rw [hrun] at outcome
    exact outcome

/-! ## Optionals -/

/-- `s` is an optional of `a`, a value type that is no optional. -/
structure IsOptionalIn (u : Universe) (s a : TypeDescriptor) : Prop where
  isOptional : s.isOptional = true
  element : u.elementOf? s = some a
  value : a.isValueType = true
  plain : a.isOptional = false

theorem isOptionalIn_unwrapOptional {u : Universe} (hu : u.Layered) (hs : s ∈ u)
    (h : s.isOptional = true) : IsOptionalIn u s (u.unwrapOptional s) := by
  obtain ⟨e, element, same, optional⟩ := hu.exists_content hs h
  rw [same]
  exact ⟨h, element, optional.value, optional.plain⟩

theorem isValueType_of_isOptional (h : t.isOptional = true) : t.isValueType = true := by
  rw [TypeDescriptor.isValueType, kind_of_isOptional h]
  rfl

namespace IsOptionalIn

variable {u : Universe}

/-- One optional has one element. -/
theorem eq (h : IsOptionalIn u s a) (h' : IsOptionalIn u s b) : a = b :=
  Option.some.inj (h.element.symm.trans h'.element)

/-- What is inside an optional is found by taking the optional off. -/
theorem unwrapOptional_eq (h : IsOptionalIn u s a) : u.unwrapOptional s = a := by
  rw [unwrapOptional, if_pos h.isOptional, h.element, Option.getD_some]

/-- The values of an optional are the empty one and the present values of its element. -/
theorem wellTyped_iff (h : IsOptionalIn u s a) :
    WellTyped u v s ↔ v = .empty ∨ ∃ w, v = .present w ∧ WellTyped u w a :=
  wellTyped_optional_iff h.isOptional h.element

/-- A value of the element is wrapped into one of the optional. -/
theorem wrap (h : IsOptionalIn u t b) (hv : WellTyped u v b) : WellTyped u v.wrap t := by
  rw [(hv.isPlain h.value h.plain).wrap]
  exact h.wellTyped_iff.mpr (.inr ⟨v, rfl, hv⟩)

end IsOptionalIn

/-- A type that is built as an optional is one. -/
theorem TypeDescriptor.isOptional_of_constructionKey? {k : Token}
    (h : t.constructionKey? = some (.optional k)) : t.isOptional = true ∧ t.element = some k := by
  rw [constructionKey?] at h
  split at h
  · rename_i kind
    obtain ⟨_, element, same⟩ := Option.map_eq_some_iff.mp h
    cases same
    exact ⟨beq_iff_eq.mpr kind, element⟩
  · obtain ⟨_, -, same⟩ := Option.map_eq_some_iff.mp h
    cases same
  · obtain ⟨_, -, same⟩ := Option.map_eq_some_iff.mp h
    cases same

/-- **The optional that is made of a type** is an optional of that type. -/
theorem Universe.Built.optionalOf {u u' : Universe} (hu : u.Built) (hs : s ∈ u)
    (made : u.optionalOf s = .ok (t, u')) (rows : u'.WithinRows) :
    u'.Built ∧ t ∈ u' ∧ IsOptionalIn u' t s := by
  have step := Step.optionalOf hs made
  have mem := (hu.wellFormed.step step rows).2.mem s hs
  have built : u'.Built := .step hu step rows
  have made : u.Constructs (· ∈ u) (.optional s.token) t u' := optionalOf_constructs hs made
  obtain ⟨optional, element⟩ :=
    TypeDescriptor.isOptional_of_constructionKey? (made.keyed hu.wellFormed)
  obtain ⟨inner, hi, shape⟩ := (built.wellFormed.shaped t made.mem).optional optional
  obtain rfl : s = inner :=
    eq_of_token_eq mem hi (Option.some.inj (element.symm.trans shape.element))
  exact ⟨built, made.mem, optional, elementOf?_eq_some.mpr ⟨mem, element⟩, shape.value,
    shape.plain⟩

theorem Sound.unwrap (h : IsOptionalIn x.types s a) (rest : Sound x procedure a t block) :
    Sound x procedure s t (.unwrap :: block) := by
  refine .cons (fun v hv => ?_) rest
  rcases h.wellTyped_iff.mp hv with rfl | ⟨w, rfl, hw⟩
  · exact Failure.emptyOptional _
  · exact hw

theorem Sound.wrap (h : IsOptionalIn x.types t b) : Sound x procedure b t [.wrap] :=
  .single fun _ hv => h.wrap hv

/-- A sound block is sound when it is lifted over optionals. -/
theorem Sound.lift (hs : IsOptionalIn x.types s a) (ht : IsOptionalIn x.types t b)
    (h : Sound x procedure a b block) : Sound x procedure s t [.lift block] := by
  refine .single fun v hv => ?_
  rw [Instruction.run]
  rcases hs.wellTyped_iff.mp hv with rfl | ⟨w, rfl, hw⟩
  · exact ht.wellTyped_iff.mpr (.inl rfl)
  · have outcome := h w hw
    rw [Value.lift]
    cases hrun : Instruction.runAll x block w with
    | ok y =>
      rw [hrun] at outcome
      exact ht.wrap outcome
    | error e =>
      rw [hrun] at outcome
      exact outcome

end TypeConversion
