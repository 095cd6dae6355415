import TypeConversion.Proofs.Reference.Order

/-!
# The way back from an implicit conversion

A reference that was taken as one of a wider type can mostly be asked back by an explicit
conversion. It cannot where a sealed class does not have the interface that it was taken as, but one
that varies to it: the explicit rule asks a sealed class for the interface itself.

* `Stranded u s t`: references of `s` that were taken as references of `t` cannot be asked back. The
  elements of arrays and the covariant arguments of delegates pass this on.
* `stranded_interface_iff`, `stranded_array_iff` and `stranded_delegate_iff`: which types of each
  shape are stranded.
* `isExplicitReference_iff_not_stranded`: an implicit conversion has an explicit one back exactly if
  its types are not stranded, by induction on the sum of their ranks.
-/

namespace TypeConversion

open Universe Reference

variable {u : Universe} {a b d i s t : TypeDescriptor} {rank : Token → Nat}

/-- References of the first type that were taken as references of the second cannot be asked
back. -/
inductive Stranded (u : Universe) : TypeDescriptor → TypeDescriptor → Prop
  /-- A sealed class does not have the interface, but one that varies to it. -/
  | varied {s t i : TypeDescriptor} (reference : s.isReferenceType = true)
      (class_ : s.isInterface = false) (closed : s.isSealed = true) (hi : i ∈ u.interfacesOf s)
      (h : Varies u i t) (other : t ∉ u.interfacesOf s) : Stranded u s t
  /-- The elements of two arrays are stranded. -/
  | element {s t a b : TypeDescriptor} {n : Nat} (hs : s.kind = .array n) (ht : t.kind = .array n)
      (ha : u.elementOf? s = some a) (hb : u.elementOf? t = some b) (h : Stranded u a b) :
      Stranded u s t
  /-- The arguments of two delegates for a covariant parameter are stranded. -/
  | argument {d s t a b : TypeDescriptor} {n : Nat} {p : GenericParameter} (hd : d ∈ u)
      (delegate : d.kind = .delegate) (source : IsInstanceOf s d) (target : IsInstanceOf t d)
      (hp : d.genericParameters[n]? = some p) (covariant : p.variance = .covariant)
      (ha : (u.genericArgumentsOf s)[n]? = some a) (hb : (u.genericArgumentsOf t)[n]? = some b)
      (h : Stranded u a b) : Stranded u s t

namespace Stranded

/-- What is stranded is a class, an array or a delegate. -/
theorem source_kind (h : Stranded u s t) :
    s.isReferenceType = true ∧ s.isInterface = false := by
  cases h with
  | varied reference class_ => exact ⟨reference, class_⟩
  | element hs =>
    rw [TypeDescriptor.isReferenceType, TypeDescriptor.isInterface, hs]
    exact ⟨rfl, rfl⟩
  | argument _ delegate source =>
    rw [TypeDescriptor.isReferenceType, TypeDescriptor.isInterface, source.kind, delegate]
    exact ⟨rfl, rfl⟩

/-- References are stranded as references of an interface, an array or a delegate. -/
theorem target_kind (hu : u.Layered) (hs : s ∈ u) (h : Stranded u s t) :
    t.kind = .interface ∨ (∃ n, t.kind = .array n) ∨ t.kind = .delegate := by
  cases h with
  | varied _ _ _ hi h =>
    have interface := isInterface_iff.mp (isInterface_of_mem_interfacesOf hu hs hi)
    exact .inl (h.kind_eq ▸ interface)
  | element _ ht => exact .inr (.inl ⟨_, ht⟩)
  | argument _ delegate _ target => exact .inr (.inr (target.kind.trans delegate))

/-- No type is stranded as itself. -/
theorem ne (hu : u.Layered) (hs : s ∈ u) (h : Stranded u s t) : s ≠ t := by
  induction h with
  | varied _ class_ _ hi h =>
    rintro rfl
    have interface := isInterface_iff.mp (isInterface_of_mem_interfacesOf hu hs hi)
    rw [isInterface_iff.mpr (h.kind_eq ▸ interface)] at class_
    cases class_
  | element _ _ ha hb _ ih =>
    rintro rfl
    exact ih (elementOf?_eq_some.mp ha).1 (Option.some.inj (ha.symm.trans hb))
  | argument _ _ _ _ _ _ ha hb _ ih =>
    rintro rfl
    exact ih (mem_genericArgumentsOf (List.mem_of_getElem? ha)).1
      (Option.some.inj (ha.symm.trans hb))

end Stranded

/-! ## Arrays -/

/-- The interfaces that arrays have. -/
def arrayInterfaces : List FrameworkType := [.cloneable, .list, .collection, .enumerable]

theorem mem_arrayInterfaces_of_inherits (hu : u.Layered) {roots : List Token}
    (all : ∀ k ∈ roots, ∃ f ∈ arrayInterfaces, f.token = k) (h : u.Inherits roots i) :
    ∃ f ∈ arrayInterfaces, f.descriptor = i := by
  induction h with
  | listed hi h =>
    obtain ⟨f, hf, e⟩ := all _ h
    exact ⟨f, hf, eq_of_token_eq (hu.framework f) hi e⟩
  | through hr h _ ih =>
    obtain ⟨f, hf, e⟩ := all _ h
    obtain rfl := eq_of_token_eq (hu.framework f) hr e
    have closed : ∀ f ∈ arrayInterfaces, ∀ k ∈ f.descriptor.interfaces,
        ∃ g ∈ arrayInterfaces, g.token = k := by decide
    exact ih (closed f hf)

/-- The interfaces of an array are not generic. -/
theorem not_varies_of_array (hu : u.Layered) (hs : s ∈ u) {n : Nat} (array : s.kind = .array n)
    (hi : i ∈ u.interfacesOf s) : ¬Varies u i t := by
  obtain ⟨_, -, made⟩ := hu.exists_element hs array
  have listed : ∀ k ∈ FrameworkType.array.descriptor.interfaces,
      ∃ f ∈ arrayInterfaces, f.token = k := by decide
  have roots : ∀ k ∈ u.listedInterfaces s, ∃ f ∈ arrayInterfaces, f.token = k := by
    intro k hk
    rcases (mem_listedInterfaces_iff hu hs).mp hk with hk | ⟨r, hr, hk⟩
    · exact listed k (made.interfaces ▸ hk)
    -- the bases of an array are the base of all arrays and the universal object
    rcases hr.of_base made.base (hu.framework .array) with rfl | hr
    · exact listed k hk
    rcases hr.of_base rfl (hu.framework .object) with rfl | hr
    · cases hk
    · exact absurd rfl hr.base_ne_none
  obtain ⟨f, hf, rfl⟩ := mem_arrayInterfaces_of_inherits hu roots
    (mem_interfacesOf_iff.mp hi)
  rintro ⟨d, -, h⟩
  have plain : ∀ f ∈ arrayInterfaces, f.descriptor.genericDefinition = none := by decide
  have token := h.source.token
  rw [plain f hf] at token
  cases token

/-! ## Stranded types by their shape -/

/-- A reference is stranded as one of an interface if it is one to a sealed class that has no more
than an interface that varies to it. -/
theorem stranded_interface_iff (reference : s.isReferenceType = true)
    (interface : t.kind = .interface) : Stranded u s t ↔
      s.isInterface = false ∧ s.isSealed = true ∧ t ∉ u.interfacesOf s ∧
        ∃ i ∈ u.interfacesOf s, Varies u i t := by
  constructor
  · intro stranded
    cases stranded with
    | varied _ class_ closed hi h other => exact ⟨class_, closed, other, _, hi, h⟩
    | element _ arrayT => simp [interface] at arrayT
    | argument _ delegate _ target =>
      have kind := target.kind
      simp [interface, delegate] at kind
  · rintro ⟨class_, closed, other, i, hi, h⟩
    exact .varied reference class_ closed hi h other

/-- Arrays are stranded as their elements are. -/
theorem stranded_array_iff (hu : u.Layered) (hs : s ∈ u) {n : Nat} (arrayS : s.kind = .array n)
    (arrayT : t.kind = .array n) (ha : u.elementOf? s = some a) (hb : u.elementOf? t = some b) :
    Stranded u s t ↔ Stranded u a b := by
  constructor
  · intro stranded
    cases stranded with
    | varied _ _ _ hi h => exact absurd h (not_varies_of_array hu hs arrayS hi)
    | element _ _ ha' hb' h =>
      cases ha.symm.trans ha'
      cases hb.symm.trans hb'
      exact h
    | argument _ delegate source =>
      have kind := source.kind
      simp [arrayS, delegate] at kind
  · exact .element arrayS arrayT ha hb

/-- Delegates are stranded as two arguments for a covariant parameter are. -/
theorem stranded_delegate_iff (hu : u.Layered) (hs : s ∈ u) (hd : d ∈ u)
    (delegate : d.kind = .delegate) (source : IsInstanceOf s d) (target : IsInstanceOf t d) :
    Stranded u s t ↔ ∃ (n : Nat) (p : GenericParameter) (a b : TypeDescriptor),
      d.genericParameters[n]? = some p ∧ p.variance = .covariant ∧
      (u.genericArgumentsOf s)[n]? = some a ∧ (u.genericArgumentsOf t)[n]? = some b ∧
        Stranded u a b := by
  constructor
  · intro stranded
    cases stranded with
    | varied _ _ _ hi h =>
      have interface := isInterface_iff.mp (isInterface_of_mem_interfacesOf hu hs hi)
      have kind := target.kind
      simp [← h.kind_eq, interface, delegate] at kind
    | element arrayS =>
      have kind := source.kind
      simp [arrayS, delegate] at kind
    | argument hd' _ source' _ hp covariant ha hb h =>
      obtain rfl := eq_of_isInstanceOf hd' hd source' source
      exact ⟨_, _, _, _, hp, covariant, ha, hb, h⟩
  · rintro ⟨n, p, a, b, hp, covariant, ha, hb, h⟩
    exact .argument hd delegate source target hp covariant ha hb h

/-! ## The rules that lead back -/

theorem implements_iff (hs : s ∈ u) : u.implements t s = true ↔ s ∈ u.interfacesOf t := by
  rw [implements, List.any_eq_true]
  constructor
  · rintro ⟨i, hi, same⟩
    rwa [← eq_of_token_eq (mem_of_mem_interfacesOf hi) hs (beq_iff_eq.mp same)]
  · intro h
    exact ⟨s, h, beq_self_eq_true _⟩

/-- Between instances of one definition, the arguments decide. -/
theorem convertsByVariance_of_instances {direct reversed : Relation} (hd : d ∈ u)
    (source : IsInstanceOf s d) (target : IsInstanceOf t d)
    (admits : d.kind.admitsVariance = true) :
    convertsByVariance u direct reversed s t
      = argumentsConvert direct reversed d.genericParameters (u.genericArgumentsOf s)
          (u.genericArgumentsOf t) := by
  have admits : s.kind.admitsVariance = true := source.kind ▸ admits
  simp [convertsByVariance, source.token, target.token, mem_iff.mp hd, admits, source.count,
    target.count]

section Back

variable (hu : u.WellFormed) (hs : s ∈ u) (ht : t ∈ u) (h : isImplicitReference u s t = true)

include hu hs ht h

/-- Types that convert one way are distinct references that do not convert the other way. -/
theorem explicit_guard_of_back :
    (!distinctReferences t s || isImplicitReference u t s) = false := by
  obtain ⟨ne, refS, refT, -⟩ := (isImplicitReference_iff hu.toLayered hs ht).mp h
  have distinct : distinctReferences t s = true :=
    (distinctReferences_iff ht hs).mpr ⟨ne.symm, refT, refS⟩
  rw [distinct, not_isImplicitReference_both hu hs ht h]
  rfl

/-- The universal object leads back to every reference. -/
theorem isExplicitReference_of_object (object : t = FrameworkType.object.descriptor) :
    isExplicitReference u t s = true := by
  have known : t.isFramework .object = true := (mem_framework_iff hu.toLayered ht).mpr object
  rw [isExplicitReference_eq hu.toLayered ht hs, explicitRule, explicit_guard_of_back hu hs ht h]
  simp [known]

/-- An interface leads back to an interface, to what is not sealed and to what has it. -/
theorem isExplicitReference_of_interface (interface : t.kind = .interface) :
    isExplicitReference u t s = true ↔ s.isInterface = true ∨ s.isSealed = false
      ∨ t ∈ u.interfacesOf s
      ∨ listAcceptsExplicitly u (isImplicitReference u) (isExplicitReference u) s t = true := by
  have noObject : t.isFramework .object = false := by
    rw [Bool.eq_false_iff]
    intro object
    rw [(mem_framework_iff hu.toLayered ht).mp object] at interface
    cases interface
  rw [isExplicitReference_eq hu.toLayered ht hs, explicitRule, explicit_guard_of_back hu hs ht h,
    noObject, isInterface_iff.mpr interface, ← implements_iff ht]
  cases s.isInterface
  · simp only [Bool.false_eq_true, if_false, Bool.or_eq_true, Bool.not_eq_true', false_or]
    tauto
  · simp

/-- A class leads back to what derives from it, an array to an array along the elements, and a
delegate to a delegate along the arguments. -/
theorem isExplicitReference_of_class (class_ : t.isInterface = false)
    (noObject : t ≠ FrameworkType.object.descriptor) : isExplicitReference u t s =
      if u.isSubclassOf s t then true
      else if t.rank?.isSome && s.rank?.isSome then
        match parallelElements? u t s with
        | some (a, b) => isExplicitReference u a b
        | none => false
      else convertsExplicitlyByVariance u (isImplicitReference u) (isExplicitReference u) t s := by
  have other : t.isFramework .object = false := by
    rw [Bool.eq_false_iff]
    exact fun object => noObject ((mem_framework_iff hu.toLayered ht).mp object)
  have classS : s.isInterface = false := by
    obtain ⟨rank, hr⟩ := hu.ranked
    obtain ⟨-, -, -, reaches⟩ := (isImplicitReference_iff hu.toLayered hs ht).mp h
    rw [Bool.eq_false_iff]
    intro interface
    have leads := reaches.of_interface hu.toLayered hr hs (isInterface_iff.mp interface) noObject
    rw [isInterface_iff.mpr leads.1] at class_
    cases class_
  rw [isExplicitReference_eq hu.toLayered ht hs, explicitRule, explicit_guard_of_back hu hs ht h,
    other, class_, classS]
  rfl

/-- Arrays lead back as their elements do. -/
theorem isExplicitReference_of_array {n : Nat} (arrayS : s.kind = .array n)
    (arrayT : t.kind = .array n) (ha : u.elementOf? s = some a) (hb : u.elementOf? t = some b) :
    isExplicitReference u t s = isExplicitReference u b a := by
  have layered := hu.toLayered
  have class_ : t.isInterface = false := by
    rw [TypeDescriptor.isInterface, arrayT]
    rfl
  have noObject : t ≠ FrameworkType.object.descriptor := by
    rintro rfl
    cases arrayT
  have noBase : u.isSubclassOf s t = false := by
    rw [Bool.eq_false_iff]
    intro subclass
    exact (((isSubclassOf_iff layered hs ht).mp subclass).kind_ne layered hs).2 n arrayT
  have ranks : s.rank? = some n ∧ t.rank? = some n := by
    rw [TypeDescriptor.rank?, TypeDescriptor.rank?, arrayS, arrayT]
    exact ⟨rfl, rfl⟩
  have parallel := parallelElements?_eq_some.mpr ⟨ranks.2.trans ranks.1.symm, hb, ha⟩
  rw [isExplicitReference_of_class hu hs ht h class_ noObject, noBase, ranks.1, ranks.2, parallel]
  rfl

/-- Delegates lead back along their arguments: a covariant one by any reference conversion, a
contravariant one between any two reference types. -/
theorem isExplicitReference_of_delegate (hd : d ∈ u) (delegate : s.kind = .delegate)
    (v : VariesOver u d s t) : isExplicitReference u t s =
      argumentsConvert (fun a b => isImplicitReference u a b || isExplicitReference u a b)
        (fun a b => a.isReferenceType && b.isReferenceType) d.genericParameters
        (u.genericArgumentsOf t) (u.genericArgumentsOf s) := by
  have layered := hu.toLayered
  have delegateT : t.kind = .delegate := v.target.kind.trans (v.source.kind ▸ delegate)
  have class_ : t.isInterface = false := by
    rw [TypeDescriptor.isInterface, delegateT]
    rfl
  have noObject : t ≠ FrameworkType.object.descriptor := by
    rintro rfl
    cases delegateT
  have noBase : u.isSubclassOf s t = false := by
    rw [Bool.eq_false_iff]
    intro subclass
    exact (((isSubclassOf_iff layered hs ht).mp subclass).kind_ne layered hs).1 delegateT
  have noRank : t.rank? = none := by
    rw [TypeDescriptor.rank?, delegateT]
    rfl
  rw [isExplicitReference_of_class hu hs ht h class_ noObject, noBase, noRank,
    convertsExplicitlyByVariance, convertsByVariance_of_instances hd v.target v.source v.admits]
  rfl

end Back

/-! ## Stranded types -/

/-- The explicit conversions back of the implicit ones between types whose ranks sum to less than a
bound are those that are not stranded. -/
def ReturnsBelow (u : Universe) (rank : Token → Nat) (bound : Nat) : Prop :=
  ∀ a ∈ u, ∀ b ∈ u, rank a.token + rank b.token < bound → isImplicitReference u a b = true →
    (isExplicitReference u b a = true ↔ ¬Stranded u a b)

/-- An argument returns along its parameter unless the parameter is covariant and the two arguments
are stranded. -/
theorem argumentConverts_back_iff (hu : u.WellFormed) (ha : a ∈ u) (hb : b ∈ u)
    {p : GenericParameter} (widens : ArgumentWidens u a b p.variance)
    (returns : isImplicitReference u a b = true →
      (isExplicitReference u b a = true ↔ ¬Stranded u a b)) :
    argumentConverts (fun a b => isImplicitReference u a b || isExplicitReference u a b)
        (fun a b => a.isReferenceType && b.isReferenceType) p b a = true ↔
      (p.variance = .covariant → ¬Stranded u a b) := by
  rw [argumentConverts, Bool.or_eq_true, beq_iff_eq]
  cases hv : p.variance with
  | invariant =>
    rw [hv] at widens
    have same : a = b := widens
    simp [same]
  | contravariant =>
    rw [hv] at widens
    rcases (widens : Widens u b a) with rfl | h
    · simp
    · obtain ⟨-, refB, refA, -⟩ := (isImplicitReference_iff hu.toLayered hb ha).mp h
      simp [refA, refB]
  | covariant =>
    rw [hv] at widens
    rcases (widens : Widens u a b) with rfl | h
    · have notStranded : ¬Stranded u a a := fun h => h.ne hu.toLayered ha rfl
      simp [notStranded]
    · have other : b.token ≠ a.token := fun e =>
        ((isImplicitReference_iff hu.toLayered ha hb).mp h).1 (eq_of_token_eq ha hb e.symm)
      simp [other, not_isImplicitReference_both hu ha hb h, returns h]

section Cases

variable (hu : u.WellFormed) (hs : s ∈ u) (ht : t ∈ u) (h : isImplicitReference u s t = true)

include hu hs ht h

/-- A reference comes back from an interface unless its type is sealed and has no more than an
interface that varies to it. -/
theorem returns_of_interface (interface : t.kind = .interface)
    (noObject : t ≠ FrameworkType.object.descriptor) :
    isExplicitReference u t s = true ↔ ¬Stranded u s t := by
  have layered := hu.toLayered
  obtain ⟨-, refS, -, reaches⟩ := (isImplicitReference_iff layered hs ht).mp h
  rw [isExplicitReference_of_interface hu hs ht h interface, stranded_interface_iff refS interface]
  constructor
  · rintro leads ⟨class_, closed, other, i, hi, h⟩
    rcases leads with isInterface | isOpen | has | accepts
    · simp [isInterface] at class_
    · simp [isOpen] at closed
    · exact other has
    · rw [listAcceptsExplicitly] at accepts
      split at accepts
      · rename_i e line
        exact not_varies_of_array layered hs (lineElement?_eq_some.mp line).1 hi h
      · cases accepts
  · intro notStranded
    by_cases isInterface : s.isInterface = true
    · exact .inl isInterface
    by_cases isOpen : s.isSealed = false
    · exact .inr (.inl isOpen)
    refine .inr (.inr ?_)
    cases reaches with
    | object h => exact absurd h noObject
    | varies h => exact absurd (isInterface_iff.mpr (h.kind_eq.trans interface)) isInterface
    | implements hi h =>
      rcases h with rfl | h
      · exact .inl hi
      · by_contra none
        exact notStranded ⟨by simpa using isInterface, by simpa using isOpen,
          fun has => none (.inl has), _, hi, h⟩
    | @list e a f line he family list ha h =>
      have argument := (listArgument?_eq_some hu.toLayered ht).mpr ⟨f, family, list, ha⟩
      have accepts : a.token = e.token ∨ isImplicitReference u e a = true :=
        h.imp_left fun same => congrArg _ same.symm
      -- between an array and a list the explicit rule takes the implicit conversion either way
      refine .inr ?_
      rw [listAcceptsExplicitly, lineElement?_eq_some.mpr ⟨line, he⟩]
      dsimp only
      rw [listAccepts, argument]
      simp only [Bool.or_eq_true, beq_iff_eq]
      tauto
    | derives h =>
      have class_ := (h.isOpen layered hs).1
      simp [isInterface_iff.mpr interface] at class_
    | elements _ arrayT => simp [interface] at arrayT

/-- A reference comes back from one of its bases. -/
theorem returns_of_derives (derives : u.Derives s t)
    (noObject : t ≠ FrameworkType.object.descriptor) :
    isExplicitReference u t s = true ↔ ¬Stranded u s t := by
  have layered := hu.toLayered
  have class_ := (derives.isOpen layered hs).1
  obtain ⟨noDelegate, noArray⟩ := derives.kind_ne layered hs
  constructor
  · rintro - stranded
    rcases stranded.target_kind layered hs with interface | ⟨n, array⟩ | delegate
    · simp [isInterface_iff.mpr interface] at class_
    · exact noArray n array
    · exact noDelegate delegate
  · intro _
    rw [isExplicitReference_of_class hu hs ht h class_ noObject,
      if_pos ((isSubclassOf_iff layered hs ht).mpr derives)]

/-- A reference to an array comes back if one to its element does. -/
theorem returns_of_elements (hr : u.IsRank rank)
    (below : ReturnsBelow u rank (rank s.token + rank t.token)) {n : Nat} {x y : TypeDescriptor}
    (arrayS : s.kind = .array n) (arrayT : t.kind = .array n) (hx : u.elementOf? s = some x)
    (hy : u.elementOf? t = some y) (hxy : isImplicitReference u x y = true) :
    isExplicitReference u t s = true ↔ ¬Stranded u s t := by
  have layered := hu.toLayered
  have lowX := rank_elementOf?_lt hr hs hx
  have lowY := rank_elementOf?_lt hr ht hy
  have element := below x (elementOf?_eq_some.mp hx).1 y (elementOf?_eq_some.mp hy).1 (by omega) hxy
  have leads := isExplicitReference_of_array hu hs ht h arrayS arrayT hx hy
  rw [leads, element, stranded_array_iff layered hs arrayS arrayT hx hy]

/-- A reference to a delegate comes back if one to each covariant argument does. -/
theorem returns_of_arguments (hr : u.IsRank rank)
    (below : ReturnsBelow u rank (rank s.token + rank t.token)) (delegate : s.kind = .delegate)
    (varies : Varies u s t) : isExplicitReference u t s = true ↔ ¬Stranded u s t := by
  have layered := hu.toLayered
  obtain ⟨d, hd, v⟩ := varies
  rw [isExplicitReference_of_delegate hu hs ht h hd delegate v, argumentsConvert_iff,
    stranded_delegate_iff layered hs hd (v.source.kind ▸ delegate) v.source v.target]
  -- the arguments return one by one
  have one : ∀ (n : Nat) (p : GenericParameter) (a b : TypeDescriptor),
      d.genericParameters[n]? = some p → (u.genericArgumentsOf s)[n]? = some a →
      (u.genericArgumentsOf t)[n]? = some b →
      (argumentConverts (fun a b => isImplicitReference u a b || isExplicitReference u a b)
        (fun a b => a.isReferenceType && b.isReferenceType) p b a = true ↔
          (p.variance = .covariant → ¬Stranded u a b)) := by
    intro n p a b hp ha hb
    have widens := v.arguments n p a b hp ha hb
    have ha := List.mem_of_getElem? ha
    have hb := List.mem_of_getElem? hb
    have lowA := rank_genericArgument_lt hr hs ha
    have lowB := rank_genericArgument_lt hr ht hb
    have ha := (mem_genericArgumentsOf ha).1
    have hb := (mem_genericArgumentsOf hb).1
    exact argumentConverts_back_iff hu ha hb widens (below a ha b hb (by omega))
  constructor
  · rintro leads ⟨n, p, a, b, hp, covariant, ha, hb, h⟩
    exact (one n p a b hp ha hb).mp (leads n p b a hp hb ha) covariant h
  · intro notStranded n p b a hp hb ha
    exact (one n p a b hp ha hb).mpr fun covariant h =>
      notStranded ⟨n, p, a, b, hp, covariant, ha, hb, h⟩

end Cases

/-- The step of the induction: a reference comes back unless its types are stranded, if this holds
of smaller types. -/
theorem returns_of_below (hu : u.WellFormed) (hr : u.IsRank rank) (hs : s ∈ u) (ht : t ∈ u)
    (below : ReturnsBelow u rank (rank s.token + rank t.token))
    (h : isImplicitReference u s t = true) :
    isExplicitReference u t s = true ↔ ¬Stranded u s t := by
  have layered := hu.toLayered
  by_cases object : t = FrameworkType.object.descriptor
  · refine iff_of_true (isExplicitReference_of_object hu hs ht h object) fun stranded => ?_
    subst object
    rcases stranded.target_kind layered hs with kind | ⟨n, kind⟩ | kind <;> cases kind
  by_cases interface : t.kind = .interface
  · exact returns_of_interface hu hs ht h interface object
  obtain ⟨-, -, -, reaches⟩ := (isImplicitReference_iff layered hs ht).mp h
  rcases reaches.of_class layered hs interface object with
    ⟨delegate, varies⟩ | ⟨derives, -⟩ | ⟨n, x, y, arrayS, arrayT, hx, hy, hxy⟩
  · exact returns_of_arguments hu hs ht h hr below delegate varies
  · exact returns_of_derives hu hs ht h derives object
  · exact returns_of_elements hu hs ht h hr below arrayS arrayT hx hy hxy

/-- **An implicit conversion has an explicit one back** exactly if its types are not stranded. -/
theorem isExplicitReference_iff_not_stranded (hu : u.WellFormed) (hs : s ∈ u) (ht : t ∈ u)
    (h : isImplicitReference u s t = true) :
    isExplicitReference u t s = true ↔ ¬Stranded u s t := by
  obtain ⟨rank, hr⟩ := hu.ranked
  have below : ∀ n, ReturnsBelow u rank n := by
    intro n
    induction n with
    | zero => exact fun _ _ _ _ lt => absurd lt (Nat.not_lt_zero _)
    | succ n ih =>
      intro x hx y hy lt hxy
      have smaller : ReturnsBelow u rank (rank x.token + rank y.token) :=
        fun x' hx' y' hy' lt' => ih x' hx' y' hy' (by omega)
      exact returns_of_below hu hr hx hy smaller hxy
  exact below _ s hs t ht (Nat.lt_succ_self _) h

end TypeConversion
