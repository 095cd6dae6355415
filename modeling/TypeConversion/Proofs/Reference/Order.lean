import TypeConversion.Proofs.Reference.Transitivity

/-!
# Implicit conversion is a strict order

No two types convert to each other. From an interface a conversion leads to an instance of the same
definition or to one whose definition has a lower rank (`Reaches.of_interface`), from a class it
leads along the bases; what remains are instances of one definition and arrays, whose arguments and
elements would convert to each other in turn.

* `Widens.antisymm`: types that widen to each other are one.
* `isImplicitReference_strictOrder`: implicit conversion is transitive up to equality and
  asymmetric.
-/

namespace TypeConversion

open Universe Reference

variable {u : Universe} {a b c d i t : TypeDescriptor} {rank : Token → Nat}

/-- The rank of the definition of an instance, and of any other type itself. -/
def rootRank (rank : Token → Nat) (t : TypeDescriptor) : Nat :=
  rank (t.genericDefinition.getD t.token)

theorem Varies.rootRank_eq (h : Varies u a b) : rootRank rank a = rootRank rank b := by
  obtain ⟨d, -, h⟩ := h
  rw [rootRank, rootRank, h.source.token, h.target.token]
  rfl

theorem rootRank_le (hr : u.IsRank rank) (ht : t ∈ u) : rootRank rank t ≤ rank t.token := by
  rw [rootRank]
  cases h : t.genericDefinition with
  | none => exact Nat.le_refl _
  | some k => exact (hr.falls t ht k (TypeDescriptor.mem_mentions_genericDefinition h)).le

/-- The interfaces of an instance are those of its definition. -/
theorem rank_lt_rootRank (hu : u.Layered) (hr : u.IsRank rank) (ht : t ∈ u)
    (plain : t.isOptional = false) (hi : i ∈ u.interfacesOf t) :
    rank i.token < rootRank rank t := by
  rw [rootRank]
  cases h : t.genericDefinition with
  | none => exact rank_lt_of_mem_interfacesOf hu hr ht hi
  | some k =>
    obtain ⟨d, found, inst⟩ := hu.exists_definition ht h plain
    obtain ⟨hd, rfl⟩ := mem_of_find?_eq_some found
    rw [interfacesOf_congr inst.base inst.interfaces] at hi
    exact rank_lt_of_mem_interfacesOf hu hr hd hi

/-- An interface converts to an instance of its definition or to one of a lower definition. -/
theorem Reaches.of_interface (hu : u.Layered) (hr : u.IsRank rank) (hb : b ∈ u)
    (interface : b.kind = .interface) (ne : c ≠ FrameworkType.object.descriptor)
    (h : Reaches u b c) :
    c.kind = .interface ∧ (Varies u b c ∨ rootRank rank c < rootRank rank b) := by
  have plain : b.isOptional = false := by
    rw [TypeDescriptor.isOptional, interface]
    rfl
  cases h with
  | object h => exact absurd h ne
  | varies h => exact ⟨h.kind_eq ▸ interface, .inl h⟩
  | @implements i hi h =>
    have hiu := mem_of_mem_interfacesOf hi
    have lower := rank_lt_rootRank hu hr hb plain hi
    have root := rootRank_le hr hiu
    have kind := isInterface_iff.mp (isInterface_of_mem_interfacesOf hu hb hi)
    rcases h with rfl | h
    · exact ⟨kind, .inr (by omega)⟩
    · have same : rootRank rank i = rootRank rank c := h.rootRank_eq
      exact ⟨h.kind_eq ▸ kind, .inr (by omega)⟩
  | derives h => exact absurd (base_of_interface hu hb interface) h.base_ne_none
  | list hs | elements hs =>
    rw [interface] at hs
    cases hs

/-- To a class lead the variance of delegates, the chain of bases, and the elements of arrays. -/
theorem Reaches.of_class (hu : u.Layered) (hb : b ∈ u) (noInterface : c.kind ≠ .interface)
    (ne : c ≠ FrameworkType.object.descriptor) (h : Reaches u b c) :
    (b.kind = .delegate ∧ Varies u b c) ∨
      (u.Derives b c ∧ c.kind ≠ .delegate ∧ ∀ n, c.kind ≠ .array n) ∨
      ∃ n x y, b.kind = .array n ∧ c.kind = .array n ∧ u.elementOf? b = some x
        ∧ u.elementOf? c = some y ∧ isImplicitReference u x y = true := by
  cases h with
  | object h => exact absurd h ne
  | varies h =>
    refine .inl ⟨?_, h⟩
    have admits := h.admits
    rw [h.kind_eq] at admits ⊢
    cases hk : c.kind <;> simp_all [TypeKind.admitsVariance]
  | implements hi h =>
    have kind := isInterface_iff.mp (isInterface_of_mem_interfacesOf hu hb hi)
    rcases h with rfl | h
    · exact absurd kind noInterface
    · exact absurd (h.kind_eq ▸ kind) noInterface
  | list _ _ family list =>
    exact absurd (list.kind.trans (kind_of_isListFamily family)) noInterface
  | derives h => exact .inr (.inl ⟨h, h.kind_ne hu hb⟩)
  | elements hs ht ha hb h => exact .inr (.inr ⟨_, _, _, hs, ht, ha, hb, h⟩)

/-- No two types whose ranks sum to less than a bound convert to each other. -/
def AsymmetricBelow (u : Universe) (rank : Token → Nat) (bound : Nat) : Prop :=
  ∀ a ∈ u, ∀ b ∈ u, rank a.token + rank b.token < bound →
    isImplicitReference u a b = true → isImplicitReference u b a = false

theorem AsymmetricBelow.eq {n : Nat} (h : AsymmetricBelow u rank n) (ha : a ∈ u) (hb : b ∈ u)
    (lt : rank a.token + rank b.token < n) (hab : Widens u a b) (hba : Widens u b a) : a = b := by
  rcases hab with e | hab
  · exact e
  rcases hba with e | hba
  · exact e.symm
  rw [h a ha b hb lt hab] at hba
  cases hba

/-- Two instances of one definition with the same arguments are the same type. -/
theorem eq_of_instance (hu : u.WellFormed) (ha : a ∈ u) (hb : b ∈ u) (h : VariesOver u d a b)
    (arguments : u.genericArgumentsOf a = u.genericArgumentsOf b) : a = b := by
  have tokens : a.genericArguments = b.genericArguments := by
    rw [← map_token_genericArgumentsOf hu.toLayered ha,
      ← map_token_genericArgumentsOf hu.toLayered hb, arguments]
  have key : ∀ {t}, IsInstanceOf t d →
      t.constructionKey? = some (.generic d.token t.genericArguments) := by
    intro t inst
    have admits := h.admits
    rw [← inst.kind] at admits
    rw [TypeDescriptor.constructionKey?]
    cases hk : t.kind <;> simp_all [TypeKind.admitsVariance, inst.token]
  have keyB := key h.target
  rw [← tokens] at keyB
  exact eq_of_token_eq ha hb (Option.some.inj
    ((hu.recorded a ha _ (key h.source)).symm.trans (hu.recorded b hb _ keyB)))

/-- Two instances that convert to each other by variance are one. -/
theorem Varies.antisymm (hu : u.WellFormed) (hr : u.IsRank rank) (ha : a ∈ u) (hb : b ∈ u)
    (below : AsymmetricBelow u rank (rank a.token + rank b.token)) (h : Varies u a b)
    (h' : Varies u b a) : a = b := by
  obtain ⟨d, hd, h⟩ := h
  obtain ⟨d', hd', h'⟩ := h'
  obtain rfl := eq_of_isInstanceOf hd' hd h'.source h.target
  refine eq_of_instance hu ha hb h ?_
  have countA : (u.genericArgumentsOf a).length = d'.genericParameters.length := by
    rw [length_genericArgumentsOf hu.toLayered ha, h.source.count]
  have countB : (u.genericArgumentsOf b).length = d'.genericParameters.length := by
    rw [length_genericArgumentsOf hu.toLayered hb, h.target.count]
  refine List.ext_getElem (countA.trans countB.symm) fun n hn hn' => ?_
  have hx : (u.genericArgumentsOf a)[n] ∈ u.genericArgumentsOf a := List.getElem_mem hn
  have hy : (u.genericArgumentsOf b)[n] ∈ u.genericArgumentsOf b := List.getElem_mem hn'
  have lowX := rank_genericArgument_lt hr ha hx
  have lowY := rank_genericArgument_lt hr hb hy
  have bound : n < d'.genericParameters.length := countA ▸ hn
  have hp := List.getElem?_eq_getElem bound
  have first := h.arguments n _ _ _ hp (List.getElem?_eq_getElem hn) (List.getElem?_eq_getElem hn')
  have second := h'.arguments n _ _ _ hp (List.getElem?_eq_getElem hn')
    (List.getElem?_eq_getElem hn)
  have hx := (mem_genericArgumentsOf hx).1
  have hy := (mem_genericArgumentsOf hy).1
  cases hv : d'.genericParameters[n].variance with
  | invariant =>
    rw [hv] at first
    exact first
  | covariant =>
    rw [hv] at first second
    exact below.eq hx hy (by omega) first second
  | contravariant =>
    rw [hv] at first second
    exact below.eq hx hy (by omega) second first

/-- The step of the induction: two types do not convert to each other if no smaller ones do. -/
theorem asymmetric_of_below (hu : u.WellFormed) (hr : u.IsRank rank) (ha : a ∈ u) (hb : b ∈ u)
    (below : AsymmetricBelow u rank (rank a.token + rank b.token))
    (h : isImplicitReference u a b = true) : isImplicitReference u b a = false := by
  have layered := hu.toLayered
  rw [Bool.eq_false_iff]
  intro h'
  obtain ⟨ne, -, -, hab⟩ := (isImplicitReference_iff layered ha hb).mp h
  obtain ⟨-, -, -, hba⟩ := (isImplicitReference_iff layered hb ha).mp h'
  have notObject : ∀ {s t}, Reaches u s t → s ≠ t → s ≠ FrameworkType.object.descriptor := by
    rintro s t h ne rfl
    exact not_reaches_of_object layered ne.symm h
  have objectA := notObject hab ne
  have objectB := notObject hba ne.symm
  by_cases interfaceA : a.kind = .interface
  · obtain ⟨interfaceB, hab⟩ := hab.of_interface layered hr ha interfaceA objectB
    obtain ⟨-, hba⟩ := hba.of_interface layered hr hb interfaceB objectA
    rcases hab with hab | hab <;> rcases hba with hba | hba
    · exact ne (hab.antisymm hu hr ha hb below hba)
    · have same : rootRank rank a = rootRank rank b := hab.rootRank_eq
      omega
    · have same : rootRank rank b = rootRank rank a := hba.rootRank_eq
      omega
    · omega
  by_cases interfaceB : b.kind = .interface
  · exact interfaceA (hba.of_interface layered hr hb interfaceB objectA).1
  -- between classes, three rules are left in each direction
  rcases hab.of_class layered ha interfaceB objectB with
    ⟨delegateA, hab⟩ | ⟨hab, noDelegateB, noArrayB⟩ | ⟨n, x, y, arrayA, arrayB, hx, hy, hxy⟩ <;>
  rcases hba.of_class layered hb interfaceA objectA with
    ⟨delegateB, hba⟩ | ⟨hba, noDelegateA, noArrayA⟩ | ⟨m, y', x', arrayB', arrayA', hy', hx', hyx⟩
  · exact ne (hab.antisymm hu hr ha hb below hba)
  · exact noDelegateA delegateA
  · simp [delegateA] at arrayA'
  · exact noDelegateB delegateB
  · exact absurd (hab.rank_lt hr.fallsToBase ha) (hba.rank_lt hr.fallsToBase hb).asymm
  · exact noArrayB m arrayB'
  · simp [delegateB] at arrayB
  · exact noArrayA n arrayA
  · have lowX := rank_elementOf?_lt hr ha hx
    have lowY := rank_elementOf?_lt hr hb hy
    rw [hx] at hx'
    rw [hy] at hy'
    cases hx'
    cases hy'
    rw [below x (elementOf?_eq_some.mp hx).1 y (elementOf?_eq_some.mp hy).1 (by omega) hxy] at hyx
    cases hyx

theorem not_isImplicitReference_both (hu : u.WellFormed) (ha : a ∈ u) (hb : b ∈ u)
    (h : isImplicitReference u a b = true) : isImplicitReference u b a = false := by
  obtain ⟨rank, hr⟩ := hu.ranked
  have below : ∀ n, AsymmetricBelow u rank n := by
    intro n
    induction n with
    | zero => exact fun _ _ _ _ lt => absurd lt (Nat.not_lt_zero _)
    | succ n ih =>
      intro x hx y hy lt
      have smaller : AsymmetricBelow u rank (rank x.token + rank y.token) :=
        fun x' hx' y' hy' lt' => ih x' hx' y' hy' (by omega)
      exact asymmetric_of_below hu hr hx hy smaller
  exact below _ a ha b hb (Nat.lt_succ_self _) h

/-- **Types that widen to each other are one.** -/
theorem Widens.antisymm (hu : u.WellFormed) (ha : a ∈ u) (hb : b ∈ u) (h : Widens u a b)
    (h' : Widens u b a) : a = b := by
  rcases h with e | h
  · exact e
  rcases h' with e | h'
  · exact e.symm
  rw [not_isImplicitReference_both hu ha hb h] at h'
  cases h'

/-- **Implicit conversion is a strict partial order** on the types of every built universe. -/
theorem isImplicitReference_strictOrder (hu : u.Built) (ha : a ∈ u) (hb : b ∈ u) (hc : c ∈ u) :
    (isImplicitReference u a b = true → isImplicitReference u b c = true →
        a = c ∨ isImplicitReference u a c = true) ∧
      ¬(isImplicitReference u a b = true ∧ isImplicitReference u b a = true) := by
  refine ⟨fun h h' => Widens.trans hu.wellFormed ha hb hc (.inr h) (.inr h'), ?_⟩
  rintro ⟨h, h'⟩
  rw [not_isImplicitReference_both hu.wellFormed ha hb h] at h'
  cases h'

/-- An array of texts is a list and a list is an enumeration, so the array is one; none of the three
converts back. -/
theorem isImplicitReference_strictOrder_array : ∃ (u : Universe) (a b c : TypeDescriptor),
    isImplicitReference u a b = true ∧ isImplicitReference u b c = true ∧
      (a = c ∨ isImplicitReference u a c = true) ∧
      ¬(isImplicitReference u a b = true ∧ isImplicitReference u b a = true) := by
  obtain ⟨t, v, made⟩ : ∃ t v,
    Universe.initial.arrayOf FrameworkType.string.descriptor 1 = .ok (t, v) := ⟨_, _, rfl⟩
  have rows : v.WithinRows := by cases made; constructor <;> decide
  have built : v.Built := .step .initial (.arrayOf (by decide) made) rows
  have ht : t ∈ v := by cases made; decide
  have order := isImplicitReference_strictOrder built ht (built.wellFormed.framework .list)
    (built.wellFormed.framework .enumerable)
  have up : isImplicitReference v t FrameworkType.list.descriptor = true := by cases made; decide
  have on : isImplicitReference v FrameworkType.list.descriptor
      FrameworkType.enumerable.descriptor = true := by cases made; decide
  exact ⟨v, t, _, _, up, on, order.1 up on, order.2⟩

end TypeConversion
