import TypeConversion.Proofs.Reference.Unfolding

/-!
# The rules of implicit reference conversion

The fixed point of the implicit rule, read as a relation on the types of a well-formed universe.

* `Widens u s t`: the types are one, or the first converts implicitly to the second.
* `Varies u s t`: the types are instances of one interface or delegate, and their arguments widen
  along the variance of its parameters.
* `Reaches u s t`: one of the rules leads from `s` to `t`. `isImplicitReference_iff` says that the
  conversions are these between distinct reference types.
-/

namespace TypeConversion

open Universe Reference

variable {u : Universe} {a b d e i s t : TypeDescriptor}

/-- The types are one or the first converts to the second. -/
def Widens (u : Universe) (s t : TypeDescriptor) : Prop := s = t ∨ isImplicitReference u s t = true

/-- One argument of an instance widens to that of another along the variance of the parameter. -/
def ArgumentWidens (u : Universe) (a b : TypeDescriptor) : Variance → Prop
  | .invariant => a = b
  | .covariant => Widens u a b
  | .contravariant => Widens u b a

/-- Two instances of one interface or delegate `d`, whose arguments widen along its parameters. -/
structure VariesOver (u : Universe) (d s t : TypeDescriptor) : Prop where
  source : IsInstanceOf s d
  target : IsInstanceOf t d
  admits : d.kind.admitsVariance = true
  arguments : ∀ (n : Nat) (p : GenericParameter) (a b : TypeDescriptor),
    d.genericParameters[n]? = some p → (u.genericArgumentsOf s)[n]? = some a →
    (u.genericArgumentsOf t)[n]? = some b → ArgumentWidens u a b p.variance

/-- A type is an instance of the definition of another, with arguments that widen to its. -/
def Varies (u : Universe) (s t : TypeDescriptor) : Prop := ∃ d ∈ u, VariesOver u d s t

/-- The ways in which a reference converts. -/
inductive Reaches (u : Universe) (s t : TypeDescriptor) : Prop
  | object (h : t = FrameworkType.object.descriptor)
  | varies (h : Varies u s t)
  | implements {i : TypeDescriptor} (hi : i ∈ u.interfacesOf s) (h : i = t ∨ Varies u i t)
  | list {e a : TypeDescriptor} {f : FrameworkType} (hs : s.kind = .array 1)
      (he : u.elementOf? s = some e) (family : f.isListFamily = true)
      (ht : IsInstanceOf t f.descriptor) (ha : u.genericArgumentsOf t = [a]) (h : Widens u e a)
  | derives (h : u.Derives s t)
  | elements {rank : Nat} {a b : TypeDescriptor} (hs : s.kind = .array rank)
      (ht : t.kind = .array rank) (ha : u.elementOf? s = some a) (hb : u.elementOf? t = some b)
      (h : isImplicitReference u a b = true)

namespace Reference

theorem distinctReferences_iff (hs : s ∈ u) (ht : t ∈ u) : distinctReferences s t = true ↔
    s ≠ t ∧ s.isReferenceType = true ∧ t.isReferenceType = true := by
  have same : s.token = t.token ↔ s = t := ⟨eq_of_token_eq hs ht, congrArg _⟩
  simp [distinctReferences, same, and_assoc]

/-! ## Variance -/

theorem argumentConverts_iff (ha : a ∈ u) (hb : b ∈ u) {p : GenericParameter} :
    argumentConverts (isImplicitReference u) (fun a b => isImplicitReference u b a) p a b = true
      ↔ ArgumentWidens u a b p.variance := by
  have same : a.token = b.token ↔ a = b := ⟨eq_of_token_eq ha hb, congrArg _⟩
  rw [argumentConverts, Bool.or_eq_true, beq_iff_eq, same]
  cases p.variance with
  | invariant => simp [ArgumentWidens]
  | covariant => exact .rfl
  | contravariant => exact or_congr_left eq_comm

theorem argumentsConvert_iff {direct reversed : Relation} {parameters : List GenericParameter}
    {as bs : List TypeDescriptor} :
    argumentsConvert direct reversed parameters as bs = true ↔
      ∀ (n : Nat) (p : GenericParameter) (a b : TypeDescriptor), parameters[n]? = some p →
        as[n]? = some a → bs[n]? = some b → argumentConverts direct reversed p a b = true := by
  induction parameters generalizing as bs with
  | nil => simp [argumentsConvert]
  | cons q qs ih =>
    cases as with
    | nil => simp [argumentsConvert]
    | cons x as =>
      cases bs with
      | nil => simp [argumentsConvert]
      | cons y bs =>
        rw [argumentsConvert, Bool.and_eq_true, ih]
        refine ⟨?_, fun h => ⟨h 0 q x y rfl rfl rfl, fun n p a b => h (n + 1) p a b⟩⟩
        rintro ⟨first, rest⟩ (_ | n) p a b hp ha hb
        · cases hp
          cases ha
          cases hb
          exact first
        · exact rest n p a b hp ha hb

theorem isOptional_of_admitsVariance (h : s.kind.admitsVariance = true) : s.isOptional = false := by
  cases hk : s.kind <;>
    simp_all [TypeDescriptor.isOptional, TypeKind.admitsVariance, TypeKind.isOptional]

/-- A type with the definition of an interface or a delegate is an instance of it. -/
theorem isInstanceOf_of_definition (hu : u.Layered) (hd : d ∈ u) (ht : t ∈ u)
    (h : t.genericDefinition = some d.token) (admits : d.kind.admitsVariance = true) :
    IsInstanceOf t d := by
  cases ho : t.isOptional with
  | false =>
    obtain ⟨c, found, instance_⟩ := hu.exists_definition ht h ho
    rw [mem_iff.mp hd] at found
    rwa [Option.some.inj found]
  | true =>
    obtain ⟨e, -, -, optional⟩ := hu.exists_content ht ho
    have token : d.token = FrameworkType.nullable.token :=
      Option.some.inj (h.symm.trans optional.definition)
    rw [eq_of_token_eq hd (hu.framework .nullable) token] at admits
    cases admits

theorem convertsImplicitlyByVariance_iff (hu : u.Layered) (hs : s ∈ u) (ht : t ∈ u) :
    convertsImplicitlyByVariance u (isImplicitReference u) s t = true ↔ Varies u s t := by
  rw [convertsImplicitlyByVariance, convertsByVariance]
  refine ⟨fun h => ?_, ?_⟩
  · split at h
    · rename_i j k hj hk
      split at h
      · cases h
      rename_i guard
      obtain ⟨rfl, admits⟩ : j = k ∧ s.kind.admitsVariance = true := by
        simpa [not_or] using guard
      obtain ⟨d, found, source⟩ := hu.exists_definition hs hj (isOptional_of_admitsVariance admits)
      rw [found] at h
      obtain ⟨hd, rfl⟩ := mem_of_find?_eq_some found
      have admits : d.kind.admitsVariance = true := source.kind ▸ admits
      have target := isInstanceOf_of_definition hu hd ht hk admits
      have arguments := argumentsConvert_iff.mp (Bool.and_eq_true_iff.mp h).2
      refine ⟨d, hd, source, target, admits, fun n p a b hp ha hb => ?_⟩
      have ha' := (mem_genericArgumentsOf (List.mem_of_getElem? ha)).1
      have hb' := (mem_genericArgumentsOf (List.mem_of_getElem? hb)).1
      exact (argumentConverts_iff ha' hb').mp (arguments n p a b hp ha hb)
    · cases h
  · rintro ⟨d, hd, h⟩
    have admits : s.kind.admitsVariance = true := h.source.kind ▸ h.admits
    have arguments : argumentsConvert (isImplicitReference u)
        (fun a b => isImplicitReference u b a) d.genericParameters
        (u.genericArgumentsOf s) (u.genericArgumentsOf t) = true := by
      refine argumentsConvert_iff.mpr fun n p a b hp ha hb => ?_
      have ha' := (mem_genericArgumentsOf (List.mem_of_getElem? ha)).1
      have hb' := (mem_genericArgumentsOf (List.mem_of_getElem? hb)).1
      exact (argumentConverts_iff ha' hb').mpr (h.arguments n p a b hp ha hb)
    simp [h.source.token, h.target.token, mem_iff.mp hd, admits, h.source.count, h.target.count,
      arguments]

/-! ## Interfaces and lists -/

theorem implementsVariant_iff (hu : u.Layered) (hs : s ∈ u) (ht : t ∈ u) (ne : s ≠ t) :
    implementsVariant u (isImplicitReference u) s t = true ↔
      ∃ i ∈ u.interfacesOf s, i = t ∨ Varies u i t := by
  have other : (s.token == t.token) = false := beq_false_of_ne fun e => ne (eq_of_token_eq hs ht e)
  rw [implementsVariant, other, Bool.and_false, Bool.not_false, Bool.true_and, List.any_eq_true]
  refine exists_congr fun i => and_congr_right fun hi => ?_
  have hi := mem_of_mem_interfacesOf hi
  have same : i.token = t.token ↔ i = t := ⟨eq_of_token_eq hi ht, congrArg _⟩
  rw [Bool.or_eq_true, beq_iff_eq, same, convertsImplicitlyByVariance_iff hu hi ht]

theorem kind_of_isListFamily {f : FrameworkType} (h : f.isListFamily = true) :
    f.descriptor.kind = .interface := by
  cases f <;> first | rfl | cases h

theorem length_genericParameters_of_isListFamily {f : FrameworkType} (h : f.isListFamily = true) :
    f.descriptor.genericParameters.length = 1 := by
  cases f <;> first | rfl | cases h

/-- A list interface has one argument. -/
theorem listArgument?_eq_some (hu : u.Layered) (ht : t ∈ u) : listArgument? u t = some a ↔
    ∃ f : FrameworkType, f.isListFamily = true ∧ IsInstanceOf t f.descriptor
      ∧ u.genericArgumentsOf t = [a] := by
  rw [listArgument?]
  refine ⟨fun h => ?_, ?_⟩
  · split at h
    · rename_i f hf
      split at h
      · rename_i family
        obtain ⟨k, hk, known⟩ := Option.bind_eq_some_iff.mp hf
        obtain rfl := FrameworkType.ofToken?_eq_some.mp known
        have admits : f.descriptor.kind.admitsVariance = true := by
          rw [kind_of_isListFamily family]
          rfl
        have list := isInstanceOf_of_definition hu (hu.framework f) ht hk admits
        obtain ⟨k, single⟩ := List.length_eq_one_iff.mp
          (list.count.trans (length_genericParameters_of_isListFamily family))
        rw [single] at h
        have found : u.find? k = some a := h
        refine ⟨f, family, list, ?_⟩
        rw [genericArgumentsOf, single, List.filterMap_cons_some found, List.filterMap_nil]
      · cases h
    · cases h
  · rintro ⟨f, family, list, ha⟩
    have tokens := map_token_genericArgumentsOf hu ht
    have mem := (mem_genericArgumentsOf (ha ▸ List.mem_singleton_self a : a ∈ _)).1
    rw [ha] at tokens
    have known : t.genericDefinition.bind FrameworkType.ofToken? = some f := by
      rw [list.token]
      exact FrameworkType.ofToken?_eq_some.mpr rfl
    simp only [known, family, if_true, ← tokens, List.map_cons, List.head?_cons, Option.bind_some]
    exact mem

theorem listAccepts_iff (hu : u.Layered) (he : e ∈ u) (ht : t ∈ u) :
    listAccepts u (isImplicitReference u) e t = true ↔
      ∃ f : FrameworkType, f.isListFamily = true ∧ IsInstanceOf t f.descriptor
        ∧ ∃ a, u.genericArgumentsOf t = [a] ∧ Widens u e a := by
  have accepted : listAccepts u (isImplicitReference u) e t = true ↔
      ∃ a, listArgument? u t = some a ∧ (a.token = e.token ∨ isImplicitReference u e a = true) := by
    rw [listAccepts]
    split <;> simp_all
  rw [accepted]
  constructor
  · rintro ⟨a, ha, h⟩
    obtain ⟨f, family, list, single⟩ := (listArgument?_eq_some hu ht).mp ha
    have mem := (mem_genericArgumentsOf (single ▸ List.mem_singleton_self a : a ∈ _)).1
    exact ⟨f, family, list, a, single, h.imp_left fun e => (eq_of_token_eq mem he e).symm⟩
  · rintro ⟨f, family, list, a, single, h⟩
    refine ⟨a, (listArgument?_eq_some hu ht).mpr ⟨f, family, list, single⟩, ?_⟩
    exact h.imp_left fun e => congrArg _ e.symm

/-! ## The rules -/

theorem kind_of_rank? {rank : Nat} (h : s.rank? = some rank) : s.kind = .array rank := by
  cases hk : s.kind <;> simp_all [TypeDescriptor.rank?, TypeKind.rank?]

theorem isInterface_iff : s.isInterface = true ↔ s.kind = .interface := beq_iff_eq

end Reference

theorem Varies.kind_eq (h : Varies u s t) : s.kind = t.kind := by
  obtain ⟨d, -, h⟩ := h
  exact h.source.kind.trans h.target.kind.symm

theorem Varies.admits (h : Varies u s t) : s.kind.admitsVariance = true := by
  obtain ⟨d, -, h⟩ := h
  exact h.source.kind ▸ h.admits

/-- What the implicit rule accepts is reached by one of the rules. -/
theorem reaches_of_implicitRule (hu : u.Layered) (hs : s ∈ u) (ht : t ∈ u) (ne : s ≠ t)
    (h : implicitRule u (isImplicitReference u) s t = true) : Reaches u s t := by
  rw [implicitRule] at h
  split at h
  · cases h
  split at h
  · rename_i object
    exact .object ((mem_framework_iff hu ht).mp object)
  split at h
  · rw [Bool.or_eq_true, Bool.or_eq_true] at h
    rcases h with (h | h) | h
    · exact .varies ((convertsImplicitlyByVariance_iff hu hs ht).mp h)
    · obtain ⟨i, hi, h⟩ := (implementsVariant_iff hu hs ht ne).mp h
      exact .implements hi h
    · split at h
      · rename_i e he
        obtain ⟨line, he⟩ := lineElement?_eq_some.mp he
        obtain ⟨f, family, list, a, ha, h⟩ :=
          (listAccepts_iff hu (elementOf?_eq_some.mp he).1 ht).mp h
        exact .list line he family list ha h
      · cases h
  split at h
  · rename_i subclass
    exact .derives ((isSubclassOf_iff hu hs ht).mp subclass)
  split at h
  · rename_i ranks
    split at h
    · rename_i a b he
      obtain ⟨same, ha, hb⟩ := parallelElements?_eq_some.mp he
      obtain ⟨rank, hrank⟩ := Option.isSome_iff_exists.mp (Bool.and_eq_true_iff.mp ranks).1
      exact .elements (kind_of_rank? hrank) (kind_of_rank? (same ▸ hrank)) ha hb h
    · cases h
  · exact .varies ((convertsImplicitlyByVariance_iff hu hs ht).mp h)

/-- Each of the rules is one of the implicit rule. -/
theorem implicitRule_of_reaches (hu : u.Layered) (hs : s ∈ u) (ht : t ∈ u)
    (distinct : distinctReferences s t = true) (h : Reaches u s t) :
    implicitRule u (isImplicitReference u) s t = true := by
  have ne : s ≠ t := ((distinctReferences_iff hs ht).mp distinct).1
  rw [implicitRule, distinct, Bool.not_true, if_neg Bool.false_ne_true]
  by_cases object : t.isFramework .object = true
  · rw [if_pos object]
  rw [if_neg object]
  cases h with
  | object h => exact absurd ((mem_framework_iff hu ht).mpr h) object
  | varies h =>
    have variance := (convertsImplicitlyByVariance_iff hu hs ht).mpr h
    have noRank : s.rank?.isSome = false := by
      have admits := h.admits
      cases hk : s.kind <;>
        simp_all [TypeKind.admitsVariance, TypeDescriptor.rank?, TypeKind.rank?]
    simp [variance, noRank]
  | @implements i hi h =>
    have interface : t.isInterface = true := by
      have hi := isInterface_of_mem_interfacesOf hu hs hi
      rcases h with rfl | h
      · exact hi
      · rw [isInterface_iff] at hi ⊢
        rw [← h.kind_eq, hi]
    have implemented := (implementsVariant_iff hu hs ht ne).mpr ⟨i, hi, h⟩
    simp [interface, implemented]
  | @list e a f line he family list ha h =>
    have interface : t.isInterface = true := by
      rw [isInterface_iff, list.kind, kind_of_isListFamily family]
    have accepted := (listAccepts_iff hu (elementOf?_eq_some.mp he).1 ht).mpr
      ⟨f, family, list, a, ha, h⟩
    simp [interface, lineElement?_eq_some.mpr ⟨line, he⟩, accepted]
  | derives h =>
    have interface := (h.isOpen hu hs).1
    have subclass := (isSubclassOf_iff hu hs ht).mpr h
    simp [interface, subclass]
  | @elements rank a b arrayS arrayT ha hb h =>
    have interface : t.isInterface = false := by
      rw [TypeDescriptor.isInterface, arrayT]
      rfl
    have ranks : s.rank? = some rank ∧ t.rank? = some rank := by
      rw [TypeDescriptor.rank?, TypeDescriptor.rank?, arrayS, arrayT]
      exact ⟨rfl, rfl⟩
    have parallel := parallelElements?_eq_some.mpr ⟨ranks.1.trans ranks.2.symm, ha, hb⟩
    simp [interface, ranks, parallel, h]

/-- **A reference converts to another type exactly if one of the rules leads there.** -/
theorem isImplicitReference_iff (hu : u.Layered) (hs : s ∈ u) (ht : t ∈ u) :
    isImplicitReference u s t = true ↔
      s ≠ t ∧ s.isReferenceType = true ∧ t.isReferenceType = true ∧ Reaches u s t := by
  rw [isImplicitReference_eq hu hs ht]
  by_cases distinct : distinctReferences s t = true
  · obtain ⟨ne, rs, rt⟩ := (distinctReferences_iff hs ht).mp distinct
    refine ⟨fun h => ⟨ne, rs, rt, reaches_of_implicitRule hu hs ht ne h⟩, fun h => ?_⟩
    exact implicitRule_of_reaches hu hs ht distinct h.2.2.2
  · refine ⟨fun h => ?_, fun h => ?_⟩
    · simp [implicitRule, distinct] at h
    · exact absurd ((distinctReferences_iff hs ht).mpr ⟨h.1, h.2.1, h.2.2.1⟩) distinct

end TypeConversion
