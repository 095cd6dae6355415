import TypeConversion.Proofs.Reference.Implicit

/-!
# Implicit conversion is transitive

If one type converts to a second and the second to a third, then the first is the third or converts
to it. The proof follows the rule that leads to the second type, and for each of them the rule that
leads on (`Reaches.after_varies` and its companions); the induction is on the sum of the three
ranks, since a contravariant parameter turns the order of the three arguments around.
-/

namespace TypeConversion

open Universe Reference

variable {u : Universe} {a b c d i t : TypeDescriptor} {rank : Token → Nat}

/-! ## What excludes what -/

/-- The universal object converts to nothing else. -/
theorem not_reaches_of_object (hu : u.Layered) (ne : t ≠ FrameworkType.object.descriptor) :
    ¬Reaches u FrameworkType.object.descriptor t := by
  intro h
  cases h with
  | object h => exact ne h
  | varies h => exact absurd h.admits Bool.false_ne_true
  | implements hi _ =>
    have hi := mem_interfacesOf_iff.mp hi
    have nothing : u.listedInterfaces FrameworkType.object.descriptor = [] := by
      refine List.eq_nil_iff_forall_not_mem.mpr fun k hk => ?_
      rcases (mem_listedInterfaces_iff hu (hu.framework .object)).mp hk with hk | ⟨b, hb, -⟩
      · cases hk
      · exact hb.base_ne_none rfl
    rw [nothing] at hi
    cases hi <;> contradiction
  | list hs => cases hs
  | derives h => exact h.base_ne_none rfl
  | elements hs => cases hs

/-- A base is neither an array nor a delegate, since those are sealed. -/
theorem Universe.Derives.kind_ne (hu : u.Layered) (ha : a ∈ u) (h : u.Derives a b) :
    b.kind ≠ .delegate ∧ ∀ rank, b.kind ≠ .array rank := by
  have unsealed := (h.isOpen hu ha).2
  simp only [TypeDescriptor.isSealed, Bool.or_eq_false_iff] at unsealed
  refine ⟨fun e => ?_, fun rank e => ?_⟩
  · rw [(hu.shaped b h.mem).delegate_sealed e] at unsealed
    cases unsealed.1.1.1
  · rw [e] at unsealed
    cases unsealed.2

theorem not_admits_of_array {n : Nat} (h : t.kind = .array n) : t.kind.admitsVariance = false := by
  rw [h]
  rfl

theorem base_of_interface (hu : u.Layered) (ht : t ∈ u) (h : t.kind = .interface) :
    t.base = none := (hu.shaped t ht).interface_base (isInterface_iff.mpr h)

/-! ## Instances of one definition -/

theorem Varies.base_eq (h : Varies u a b) : a.base = b.base := by
  obtain ⟨d, -, h⟩ := h
  exact h.source.base.trans h.target.base.symm

theorem Varies.interfacesOf_eq (h : Varies u a b) : u.interfacesOf a = u.interfacesOf b := by
  refine interfacesOf_congr h.base_eq ?_
  obtain ⟨d, -, h⟩ := h
  exact h.source.interfaces.trans h.target.interfaces.symm

/-- A type is an instance of one definition only. -/
theorem eq_of_isInstanceOf (hc : c ∈ u) (hd : d ∈ u) (h : IsInstanceOf t c)
    (h' : IsInstanceOf t d) : c = d :=
  eq_of_token_eq hc hd (Option.some.inj (h.token.symm.trans h'.token))

/-- Widening is transitive on types whose ranks sum to less than a bound. -/
def WidensTransBelow (u : Universe) (rank : Token → Nat) (bound : Nat) : Prop :=
  ∀ a ∈ u, ∀ b ∈ u, ∀ c ∈ u, rank a.token + rank b.token + rank c.token < bound →
    Widens u a b → Widens u b c → Widens u a c

/-- The arguments of instances of one definition compose, each in the direction of its parameter. -/
theorem Varies.trans (hu : u.Layered) (hr : u.IsRank rank) {n : Nat}
    (ha : a ∈ u) (hb : b ∈ u) (hc : c ∈ u) (below : WidensTransBelow u rank n)
    (hn : rank a.token + rank b.token + rank c.token ≤ n) (h : Varies u a b)
    (h' : Varies u b c) : Varies u a c := by
  obtain ⟨d, hd, h⟩ := h
  obtain ⟨d', hd', h'⟩ := h'
  obtain rfl := eq_of_isInstanceOf hd' hd h'.source h.target
  refine ⟨d', hd, h.source, h'.target, h.admits, fun n p x z hp hx hz => ?_⟩
  have same : (u.genericArgumentsOf a).length = (u.genericArgumentsOf b).length := by
    rw [length_genericArgumentsOf hu ha, length_genericArgumentsOf hu hb, h.source.count,
      h.target.count]
  have short : n < (u.genericArgumentsOf b).length := same ▸ (List.getElem?_eq_some_iff.mp hx).1
  obtain ⟨y, hy⟩ : ∃ y, (u.genericArgumentsOf b)[n]? = some y := ⟨_, List.getElem?_eq_getElem short⟩
  have first := h.arguments n p x y hp hx hy
  have second := h'.arguments n p y z hp hy hz
  have hx := List.mem_of_getElem? hx
  have hy := List.mem_of_getElem? hy
  have hz := List.mem_of_getElem? hz
  have lowX := rank_genericArgument_lt hr ha hx
  have lowY := rank_genericArgument_lt hr hb hy
  have lowZ := rank_genericArgument_lt hr hc hz
  have hx := (mem_genericArgumentsOf hx).1
  have hy := (mem_genericArgumentsOf hy).1
  have hz := (mem_genericArgumentsOf hz).1
  cases hv : p.variance with
  | invariant =>
    rw [hv] at first second
    exact Eq.trans first second
  | covariant =>
    rw [hv] at first second
    exact below x hx y hy z hz (by omega) first second
  | contravariant =>
    rw [hv] at first second
    exact below z hz y hy x hx (by omega) second first

/-- Two arrays of one element and one rank are the same type. -/
theorem eq_of_array (hu : u.Interned) (ha : a ∈ u) (hb : b ∈ u) {n : Nat}
    (arrayA : a.kind = .array n) (arrayB : b.kind = .array n) (hx : u.elementOf? a = some i)
    (hy : u.elementOf? b = some i) : a = b := by
  have keyA : a.constructionKey? = some (.array i.token n) := by
    rw [TypeDescriptor.constructionKey?, arrayA, (elementOf?_eq_some.mp hx).2]
    rfl
  have keyB : b.constructionKey? = some (.array i.token n) := by
    rw [TypeDescriptor.constructionKey?, arrayB, (elementOf?_eq_some.mp hy).2]
    rfl
  exact eq_of_token_eq ha hb
    (Option.some.inj ((hu.recorded a ha _ keyA).symm.trans (hu.recorded b hb _ keyB)))

/-! ## List interfaces -/

/-- A list interface lists the plain enumeration only. -/
theorem eq_enumerable_of_mem_interfacesOf (hu : u.Layered) {f : FrameworkType}
    (family : f.isListFamily = true) (list : IsInstanceOf t f.descriptor)
    (h : i ∈ u.interfacesOf t) : i = FrameworkType.enumerable.descriptor := by
  have listed : f.descriptor.interfaces = [FrameworkType.enumerable.token]
      ∧ f.descriptor.base = none := by
    cases f <;> first | exact ⟨rfl, rfl⟩ | cases family
  have roots : u.listedInterfaces t = [FrameworkType.enumerable.token] := by
    have noBase : t.base = none := list.base.trans listed.2
    have noBases : u.ancestors t = [] := by
      rw [ancestors, noBase]
      cases u.types.length <;> rfl
    rw [listedInterfaces, noBases, list.interfaces, listed.1]
    rfl
  have h := mem_interfacesOf_iff.mp h
  rw [roots] at h
  cases h with
  | listed hi h => exact eq_of_token_eq hi (hu.framework .enumerable) (List.mem_singleton.mp h)
  | through hr h hi =>
    obtain rfl := eq_of_token_eq hr (hu.framework .enumerable) (List.mem_singleton.mp h)
    cases hi <;> contradiction

theorem enumerable_mem_interfacesOf (hu : u.Layered) (ht : t ∈ u) {n : Nat}
    (h : t.kind = .array n) : FrameworkType.enumerable.descriptor ∈ u.interfacesOf t := by
  obtain ⟨e, -, array⟩ := hu.exists_element ht h
  refine mem_interfacesOf_iff.mpr (.listed (hu.framework .enumerable) ?_)
  rw [mem_listedInterfaces_iff hu ht, array.interfaces]
  exact .inl (by decide)

/-! ## One rule after another -/

section Compose

variable {n : Nat} (hu : u.Layered) (hr : u.IsRank rank) (ha : a ∈ u) (hb : b ∈ u) (hc : c ∈ u)
  (below : WidensTransBelow u rank n) (hn : rank a.token + rank b.token + rank c.token ≤ n)

include hu hr ha hb hc below hn

theorem Reaches.after_varies (h : Varies u a b) (h' : Reaches u b c) : Reaches u a c := by
  cases h' with
  | object h' => exact .object h'
  | varies h' => exact .varies (h.trans hu hr ha hb hc below hn h')
  | implements hi h' => exact .implements (h.interfacesOf_eq ▸ hi) h'
  | derives h' => exact .derives (.of_base_eq h.base_eq h')
  | list hs | elements hs =>
    rw [← h.kind_eq] at hs
    exact absurd h.admits (by simp [not_admits_of_array hs])

theorem Reaches.after_implements (hi : i ∈ u.interfacesOf a) (h : i = b ∨ Varies u i b)
    (h' : Reaches u b c) : Reaches u a c := by
  have lower := rank_lt_of_mem_interfacesOf hu hr ha hi
  have hiu := mem_of_mem_interfacesOf hi
  have interface : b.kind = .interface := by
    have hi := isInterface_iff.mp (isInterface_of_mem_interfacesOf hu ha hi)
    rcases h with rfl | h
    · exact hi
    · rw [← h.kind_eq, hi]
  cases h' with
  | object h' => exact .object h'
  | varies h' =>
    refine .implements hi (.inr ?_)
    rcases h with rfl | h
    · exact h'
    · exact h.trans hu hr hiu hb hc below (by omega) h'
  | implements hj h' =>
    refine .implements (interfacesOf_trans hu ha hi ?_) h'
    rcases h with rfl | h
    · exact hj
    · exact h.interfacesOf_eq ▸ hj
  | derives h' => exact absurd (base_of_interface hu hb interface) h'.base_ne_none
  | list hs | elements hs =>
    rw [interface] at hs
    cases hs

theorem Reaches.after_list {e x : TypeDescriptor} {f : FrameworkType} (line : a.kind = .array 1)
    (he : u.elementOf? a = some e) (family : f.isListFamily = true)
    (list : IsInstanceOf b f.descriptor) (hx : u.genericArgumentsOf b = [x]) (h : Widens u e x)
    (h' : Reaches u b c) : Reaches u a c := by
  have interface : b.kind = .interface := list.kind.trans (kind_of_isListFamily family)
  cases h' with
  | object h' => exact .object h'
  | varies h' =>
    obtain ⟨d, hd, h'⟩ := h'
    obtain rfl := eq_of_isInstanceOf hd (hu.framework f) h'.source list
    have short : (u.genericArgumentsOf c).length = 1 := by
      rw [length_genericArgumentsOf hu hc, h'.target.count,
        length_genericParameters_of_isListFamily family]
    obtain ⟨y, hy⟩ := List.length_eq_one_iff.mp short
    have hxm : x ∈ u.genericArgumentsOf b := hx ▸ List.mem_singleton_self x
    have hym : y ∈ u.genericArgumentsOf c := hy ▸ List.mem_singleton_self y
    have widens : Widens u x y := by
      have read : ∃ p, f.descriptor.genericParameters = [p] ∧ p.variance ≠ .contravariant := by
        cases f <;> first | exact ⟨_, rfl, by decide⟩ | cases family
      obtain ⟨p, hp, direction⟩ := read
      have h := h'.arguments 0 p x y (by rw [hp]; rfl) (by rw [hx]; rfl) (by rw [hy]; rfl)
      cases hv : p.variance with
      | invariant =>
        rw [hv] at h
        exact .inl h
      | covariant =>
        rw [hv] at h
        exact h
      | contravariant => exact absurd hv direction
    have lowE := rank_elementOf?_lt hr ha he
    have lowX := rank_genericArgument_lt hr hb hxm
    have lowY := rank_genericArgument_lt hr hc hym
    exact .list line he family h'.target hy (below e (elementOf?_eq_some.mp he).1 x
      (mem_genericArgumentsOf hxm).1 y (mem_genericArgumentsOf hym).1 (by omega) h widens)
  | implements hi h' =>
    obtain rfl := eq_enumerable_of_mem_interfacesOf hu family list hi
    exact .implements (enumerable_mem_interfacesOf hu ha line) h'
  | derives h' => exact absurd (base_of_interface hu hb interface) h'.base_ne_none
  | list hs | elements hs =>
    rw [interface] at hs
    cases hs

omit hr hb hc below hn in
theorem Reaches.after_derives (h : u.Derives a b) (h' : Reaches u b c) : Reaches u a c := by
  obtain ⟨noDelegate, noArray⟩ := h.kind_ne hu ha
  cases h' with
  | object h' => exact .object h'
  | varies h' =>
    have admits := h'.admits
    have noInterface : b.kind ≠ .interface := fun e => by
      have open_ := (h.isOpen hu ha).1
      rw [isInterface_iff.mpr e] at open_
      cases open_
    cases hk : b.kind <;> simp_all [TypeKind.admitsVariance]
  | implements hi h' => exact .implements (interfacesOf_subset hu ha h hi) h'
  | derives h' => exact .derives (h.trans h')
  | list hs => exact absurd hs (noArray 1)
  | elements hs => exact absurd hs (noArray _)

theorem Reaches.after_elements (hi : u.Interned) {dims : Nat} {x y : TypeDescriptor}
    (arrayA : a.kind = .array dims) (arrayB : b.kind = .array dims) (hx : u.elementOf? a = some x)
    (hy : u.elementOf? b = some y) (h : isImplicitReference u x y = true) (h' : Reaches u b c) :
    a = c ∨ Reaches u a c := by
  obtain ⟨_, -, madeA⟩ := hu.exists_element ha arrayA
  obtain ⟨_, -, madeB⟩ := hu.exists_element hb arrayB
  have base : a.base = b.base := madeA.base.trans madeB.base.symm
  have lowX := rank_elementOf?_lt hr ha hx
  have lowY := rank_elementOf?_lt hr hb hy
  have hxu := (elementOf?_eq_some.mp hx).1
  have hyu := (elementOf?_eq_some.mp hy).1
  cases h' with
  | object h' => exact .inr (.object h')
  | varies h' => exact absurd h'.admits (by simp [not_admits_of_array arrayB])
  | implements hi h' =>
    refine .inr (.implements ?_ h')
    rwa [interfacesOf_congr base (madeA.interfaces.trans madeB.interfaces.symm)]
  | @list e z f line he family list hz widens =>
    have hzm : z ∈ u.genericArgumentsOf c := hz ▸ List.mem_singleton_self z
    have lowZ := rank_genericArgument_lt hr hc hzm
    rw [arrayB] at line
    cases line
    rw [hy] at he
    cases he
    exact .inr (.list arrayA hx family list hz (below x hxu y hyu z (mem_genericArgumentsOf hzm).1
      (by omega) (.inr h) widens))
  | derives h' => exact .inr (.derives (.of_base_eq base h'))
  | @elements _ y₁ z hs ht hy₁ hz hyz =>
    have lowZ := rank_elementOf?_lt hr hc hz
    rw [hy] at hy₁
    cases hy₁
    rw [arrayB] at hs
    cases hs
    rcases below x hxu y hyu z (elementOf?_eq_some.mp hz).1 (by omega) (.inr h) (.inr hyz) with
      rfl | hxz
    · exact .inl (eq_of_array hi ha hc arrayA ht hx hz)
    · exact .inr (.elements arrayA ht hx hz hxz)

end Compose

/-! ## Transitivity -/

/-- The step of the induction: widening is transitive on three types if it is on smaller ones. -/
theorem widens_trans_of_below (hu : u.WellFormed) (hr : u.IsRank rank) (ha : a ∈ u) (hb : b ∈ u)
    (hc : c ∈ u)
    (below : WidensTransBelow u rank (rank a.token + rank b.token + rank c.token))
    (h : Widens u a b) (h' : Widens u b c) : Widens u a c := by
  have layered := hu.toLayered
  rcases h with rfl | h
  · exact h'
  rcases h' with rfl | h'
  · exact .inr h
  by_cases ne : a = c
  · exact .inl ne
  obtain ⟨-, refA, -, reachesB⟩ := (isImplicitReference_iff layered ha hb).mp h
  obtain ⟨neBC, -, refC, reachesC⟩ := (isImplicitReference_iff layered hb hc).mp h'
  have reaches : a = c ∨ Reaches u a c := by
    cases reachesB with
    | object e =>
      subst e
      exact absurd reachesC (not_reaches_of_object layered neBC.symm)
    | varies h =>
      exact .inr (.after_varies layered hr ha hb hc below (Nat.le_refl _) h reachesC)
    | implements hi h =>
      exact .inr (.after_implements layered hr ha hb hc below (Nat.le_refl _) hi h reachesC)
    | list line he family list hx h =>
      exact .inr (.after_list layered hr ha hb hc below (Nat.le_refl _) line he family list hx h
        reachesC)
    | derives h => exact .inr (.after_derives layered ha h reachesC)
    | elements arrayA arrayB hx hy h =>
      exact Reaches.after_elements layered hr ha hb hc below (Nat.le_refl _) hu.toInterned
        arrayA arrayB hx hy h reachesC
  exact .inr ((isImplicitReference_iff layered ha hc).mpr
    ⟨ne, refA, refC, reaches.resolve_left ne⟩)

/-- **Widening is transitive.** -/
theorem Widens.trans (hu : u.WellFormed) (ha : a ∈ u) (hb : b ∈ u) (hc : c ∈ u)
    (h : Widens u a b) (h' : Widens u b c) : Widens u a c := by
  obtain ⟨rank, hr⟩ := hu.ranked
  have below : ∀ n, WidensTransBelow u rank n := by
    intro n
    induction n with
    | zero => exact fun _ _ _ _ _ _ lt => absurd lt (Nat.not_lt_zero _)
    | succ n ih =>
      intro x hx y hy z hz lt
      have smaller : WidensTransBelow u rank (rank x.token + rank y.token + rank z.token) :=
        fun x' hx' y' hy' z' hz' lt' => ih x' hx' y' hy' z' hz' (by omega)
      exact widens_trans_of_below hu hr hx hy hz smaller
  exact below _ a ha b hb c hc (Nat.lt_succ_self _) h h'

end TypeConversion
