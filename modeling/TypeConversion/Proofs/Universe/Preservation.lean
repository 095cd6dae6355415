import TypeConversion.Proofs.Universe.Initial
import TypeConversion.Proofs.Universe.Steps

/-!
# Every built universe is well formed

Each elementary change keeps a universe well formed and keeps all its types and operators, so every
step does, and every universe that steps lead to is well formed (`Built.wellFormed`).

* `Universe.Extends u v`: the types of `u` are types of `v`, and the operators of `v` begin with
  those of `u`.
-/

namespace TypeConversion

-- Powers are those of the core library, also where another library has its own.
attribute [local instance (2000)] instPowNat

/-- Two tokens of known tables and rows are equal only if both parts are. -/
theorem Token.ofParts_inj {a b row other : Nat} (ha : a < 2 ^ (8 : Nat)) (hb : b < 2 ^ (8 : Nat))
    (hrow : row < 2 ^ (24 : Nat)) (hother : other < 2 ^ (24 : Nat))
    (h : ofParts a row = ofParts b other) : a = b ∧ row = other := by
  have table := congrArg Token.table h
  have rows := congrArg Token.row h
  rw [table_ofParts ha, table_ofParts hb] at table
  rw [row_ofParts, row_ofParts, Nat.mod_eq_of_lt hrow, Nat.mod_eq_of_lt hother] at rows
  exact ⟨table, rows⟩

namespace Universe

variable {u v w : Universe} {s t : TypeDescriptor}

/-- One universe grew out of another. -/
structure Extends (u v : Universe) : Prop where
  mem : ∀ t ∈ u, t ∈ v
  size : u.types.length ≤ v.types.length
  operators : u.operators <+: v.operators

theorem Extends.refl (u : Universe) : u.Extends u := ⟨fun _ h => h, Nat.le_refl _, List.prefix_rfl⟩

theorem Extends.trans (h : u.Extends v) (h' : v.Extends w) : u.Extends w :=
  ⟨fun t ht => h'.mem t (h.mem t ht), h.size.trans h'.size, h.operators.trans h'.operators⟩

/-! ## Membership after a change -/

theorem find?_congr {k : Token} (h : v.types = u.types) : v.find? k = u.find? k := by
  rw [find?, find?, h]

theorem mem_congr (h : v.types = u.types) : s ∈ v ↔ s ∈ u := by
  rw [mem_iff, mem_iff, find?_congr h]

theorem mem_of_mem_publish (h : v.types = (u.publish t).types) (hs : s ∈ v) : s = t ∨ s ∈ u := by
  rw [mem_congr h, mem_iff, find?_publish] at hs
  split at hs
  · exact .inl (Option.some.inj hs).symm
  · exact .inr hs

theorem mem_add (h : v.types = (u.publish t).types) (fresh : u.find? t.token = none) :
    s ∈ v ↔ s = t ∨ s ∈ u := by
  rw [mem_congr h, mem_iff, find?_publish, mem_iff]
  by_cases e : t.token = s.token
  · rw [if_pos e, ← e, fresh]
    simp [eq_comm]
  · have ne : s ≠ t := fun h => e (by rw [h])
    simp [e, ne]

theorem length_add (h : v.types = (u.publish t).types) (fresh : u.find? t.token = none) :
    v.types.length = u.types.length + 1 := by
  have kept : (u.types.filter fun s => s.token != t.token) = u.types := by
    rw [List.filter_eq_self]
    intro s hs
    simpa using List.find?_eq_none.mp fresh s hs
  simp [h, publish, kept]

/-! ## Types -/

/-- A new type takes the greatest rank: what it refers to was there before. -/
theorem exists_rank_add (refers : TypeDescriptor → List Token) {rank : Token → Nat}
    (h : v.types = (u.publish t).types) (fresh : u.find? t.token = none)
    (below : ∀ s ∈ u, rank s.token < u.types.length)
    (falls : ∀ s ∈ u, ∀ k ∈ refers s, rank k < rank s.token)
    (known : ∀ s ∈ u, ∀ k ∈ refers s, ∃ r ∈ u, r.token = k)
    (new : ∀ k ∈ refers t, ∃ r ∈ u, r.token = k) :
    ∃ rank : Token → Nat, (∀ s ∈ v, rank s.token < v.types.length) ∧
      ∀ s ∈ v, ∀ k ∈ refers s, rank k < rank s.token := by
  have old : ∀ s ∈ u, s.token ≠ t.token := by
    rintro s hs e
    rw [mem_iff, e, fresh] at hs
    cases hs
  refine ⟨fun k => if k = t.token then u.types.length else rank k, fun s hs => ?_,
    fun s hs k hk => ?_⟩
  · rw [length_add h fresh]
    rcases (mem_add h fresh).mp hs with rfl | hs
    · simp
    · simpa [old s hs] using Nat.lt_succ_of_lt (below s hs)
  · rcases (mem_add h fresh).mp hs with rfl | hs
    · obtain ⟨r, hr, rfl⟩ := new k hk
      simpa [old r hr] using below r hr
    · obtain ⟨r, hr, rfl⟩ := known s hs k hk
      simpa [old s hs, old r hr] using falls s hs _ hk

theorem Layered.congr (hu : u.Layered) (h : v.types = u.types) : v.Layered where
  builtin t ht := (mem_congr h).mpr (hu.builtin t ht)
  shaped t ht := (hu.shaped t ((mem_congr h).mp ht)).mono fun _ => (mem_congr h).mpr
  ranked := by
    obtain ⟨rank, hr⟩ := hu.ranked
    exact ⟨rank, fun t ht => h ▸ hr.below t ((mem_congr h).mp ht),
      fun t ht => hr.falls t ((mem_congr h).mp ht)⟩

theorem Layered.add (hu : u.Layered) (h : v.types = (u.publish t).types)
    (fresh : u.find? t.token = none) (shaped : Shaped u t) : v.Layered where
  builtin s hs := (mem_add h fresh).mpr (.inr (hu.builtin s hs))
  shaped s hs := by
    have le : ∀ s ∈ u, s ∈ v := fun s hs => (mem_add h fresh).mpr (.inr hs)
    rcases (mem_add h fresh).mp hs with rfl | hs
    · exact shaped.mono le
    · exact (hu.shaped s hs).mono le
  ranked := by
    obtain ⟨rank, hr⟩ := hu.ranked
    obtain ⟨rank', below, falls⟩ := exists_rank_add TypeDescriptor.mentions h fresh hr.below
      hr.falls (fun s hs => (hu.shaped s hs).mentioned) shaped.mentioned
    exact ⟨rank', below, falls⟩

/-! ## Constructions -/

theorem Interned.congr (hu : u.Interned) (h : v.types = u.types)
    (hc : v.constructions = u.constructions) : v.Interned where
  recorded t ht key hk := hc ▸ hu.recorded t ((mem_congr h).mp ht) key hk
  constructed key token hk := by
    obtain ⟨t, ht, e⟩ := hu.constructed key token (hc ▸ hk)
    exact ⟨t, (mem_congr h).mpr ht, e⟩

theorem Interned.declare (hu : u.Interned) (h : v.types = (u.publish t).types)
    (fresh : u.find? t.token = none) (plain : t.constructionKey? = none)
    (hc : v.constructions = u.constructions) : v.Interned where
  recorded s hs key hk := by
    rw [hc]
    rcases (mem_add h fresh).mp hs with rfl | hs
    · simp [plain] at hk
    · exact hu.recorded s hs key hk
  constructed key token hk := by
    obtain ⟨s, hs, e⟩ := hu.constructed key token (hc ▸ hk)
    exact ⟨s, (mem_add h fresh).mpr (.inr hs), e⟩

theorem Interned.record (hu : u.Interned) {key : ConstructionKey}
    (fresh : u.find? t.token = none) (missing : u.constructions.lookup key = none)
    (keyed : t.constructionKey? = some key) : (u.record key t).Interned where
  recorded s hs other hk := by
    change ((key, t.token) :: u.constructions).lookup other = _
    rcases (mem_add rfl fresh).mp hs with rfl | hs
    · rw [keyed] at hk
      cases hk
      simp
    · have recorded := hu.recorded s hs other hk
      have ne : other ≠ key := by
        rintro rfl
        rw [missing] at recorded
        cases recorded
      simpa [List.lookup_cons, beq_false_of_ne ne] using recorded
  constructed other token hk := by
    change ((key, t.token) :: u.constructions).lookup other = _ at hk
    by_cases e : other = key
    · subst e
      simp only [List.lookup_cons_self, Option.some.injEq] at hk
      exact ⟨t, (mem_add rfl fresh).mpr (.inl rfl), hk, keyed⟩
    · simp only [List.lookup_cons, beq_false_of_ne e] at hk
      obtain ⟨s, hs, he⟩ := hu.constructed other token hk
      exact ⟨s, (mem_add rfl fresh).mpr (.inr hs), he⟩

/-! ## Numbers -/

/-- A token that was given out is the token of its row, and no row of its table is free. -/
theorem Issued.mono {k : Token} (h : u.Issued k) (declared : u.nextDeclared ≤ v.nextDeclared)
    (constructed : u.nextConstructed ≤ v.nextConstructed) : v.Issued k := by
  rcases h with ⟨row, positive, below, rfl⟩ | ⟨row, below, rfl⟩
  · exact .inl ⟨row, positive, below.trans_le declared, rfl⟩
  · exact .inr ⟨row, below.trans_le constructed, rfl⟩

/-- The next token for a constructed type is not in use. -/
theorem Numbered.fresh (hu : u.Numbered) (small : u.nextConstructed < 2 ^ (24 : Nat))
    (declared : u.nextDeclared ≤ 2 ^ (24 : Nat)) :
    u.find? (.ofParts Token.constructedTable u.nextConstructed) = none := by
  by_contra found
  obtain ⟨s, hs, e⟩ := isSome_find?_iff.mp (Option.isSome_iff_ne_none.mpr found)
  rcases hu.issued s hs with ⟨row, -, below, h⟩ | ⟨row, below, h⟩
  · have tables := Token.ofParts_inj (by decide) (by decide) (by omega) small (h.symm.trans e)
    exact absurd tables.1 (by decide)
  · have rows := Token.ofParts_inj (by decide) (by decide) (by omega) small (h.symm.trans e)
    omega

theorem isSome_find?_mono (le : ∀ s ∈ u, s ∈ v) {k : Token} (h : (u.find? k).isSome = true) :
    (v.find? k).isSome = true := by
  rw [isSome_find?_iff] at h ⊢
  exact h.imp fun s hs => ⟨le s hs.1, hs.2⟩

/-- Types that are added under tokens that were given out leave the numbers as they are. -/
theorem Numbered.types (hu : u.Numbered) (le : ∀ s ∈ u, s ∈ v)
    (issued : ∀ s ∈ v, s ∈ u ∨ v.Issued s.token) (declared : u.nextDeclared ≤ v.nextDeclared)
    (constructed : u.nextConstructed ≤ v.nextConstructed) (ho : v.operators = u.operators)
    (hn : v.nextOperator = u.nextOperator) (hg : v.operatorGeneration = u.operatorGeneration) :
    v.Numbered where
  issued s hs := (issued s hs).elim (fun h => (hu.issued s h).mono declared constructed) id
  next := by rw [hn, ho, hu.next]
  generation := by rw [hg, ho, hu.generation]
  rows := by rw [ho, hu.rows]
  operands o h := by
    obtain ⟨h₁, h₂, h₃⟩ := hu.operands o (ho ▸ h)
    exact ⟨isSome_find?_mono le h₁, isSome_find?_mono le h₂, isSome_find?_mono le h₃⟩

theorem Numbered.operate (hu : u.Numbered) {o : Operator} {input output : TypeDescriptor}
    (h : o.Admitted u input output) : (u.addOperator o).Numbered where
  issued := hu.issued
  next := by simp [addOperator, hu.next]
  generation := by simp [addOperator, hu.generation]
  rows := by
    simp only [addOperator, List.map_append, List.map_cons, List.map_nil, List.length_append,
      List.length_cons, List.length_nil, Nat.zero_add, List.range_succ, hu.rows, h.token, hu.next]
  operands p hp := by
    rcases List.mem_append.mp hp with hp | hp
    · exact hu.operands p hp
    · rw [List.mem_singleton.mp hp]
      exact ⟨h.declaring, isSome_find?_iff.mpr ⟨input, h.input_mem, h.input_token⟩,
        isSome_find?_iff.mpr ⟨output, h.output_mem, h.output_token⟩⟩

/-! ## Changes and steps -/

/-- Rows are only ever given out. -/
theorem Change.withinRows (c : u.Change v) (hv : v.WithinRows) : u.WithinRows := by
  obtain ⟨h₁, h₂, h₃⟩ := hv
  cases c with
  | allocate => exact ⟨Nat.le_of_succ_le h₁, h₂, h₃⟩
  | declare => exact ⟨h₁, h₂, h₃⟩
  | construct => exact ⟨h₁, Nat.le_of_succ_le h₂, h₃⟩
  | operate => exact ⟨h₁, h₂, Nat.le_of_succ_le h₃⟩

/-- **A change keeps a universe well formed**, and the universe grows. -/
theorem WellFormed.change (hu : u.WellFormed) (c : u.Change v) (hv : v.WithinRows) :
    v.WellFormed ∧ u.Extends v := by
  have rows := c.withinRows hv
  cases c with
  | allocate =>
    have numbered : u.allocate.2.Numbered :=
      hu.toNumbered.types (fun _ h => h) (fun _ h => .inl h) (Nat.le_succ _) (Nat.le_refl _) rfl rfl
        rfl
    have layered : u.allocate.2.Layered := hu.toLayered.congr rfl
    have interned : u.allocate.2.Interned := hu.toInterned.congr rfl rfl
    exact ⟨{ layered, interned, numbered with }, fun _ h => h, Nat.le_refl _, List.prefix_rfl⟩
  | @declare t fresh token unnamed shaped plain =>
    have le : ∀ s ∈ u, s ∈ u.publish t := fun s hs => (mem_add rfl fresh).mpr (.inr hs)
    have numbered : (u.publish t).Numbered := by
      refine hu.toNumbered.types le (fun s hs => ?_) (Nat.le_refl _) (Nat.le_refl _) rfl rfl rfl
      rcases (mem_add rfl fresh).mp hs with rfl | hs
      · exact .inr (.inl token)
      · exact .inl hs
    have layered : (u.publish t).Layered := hu.toLayered.add rfl fresh shaped
    have interned : (u.publish t).Interned := hu.toInterned.declare rfl fresh plain rfl
    have size : (u.publish t).types.length = u.types.length + 1 := length_add rfl fresh
    exact ⟨{ layered, interned, numbered with }, le, by omega, List.prefix_rfl⟩
  | @construct key t missing token shaped keyed =>
    have small : u.nextConstructed < 2 ^ (24 : Nat) := hv.constructed
    have fresh : u.find? t.token = none := token ▸ hu.toNumbered.fresh small rows.declared
    have le : ∀ s ∈ u, s ∈ u.record key t := fun s hs => (mem_add rfl fresh).mpr (.inr hs)
    have numbered : (u.record key t).Numbered := by
      refine hu.toNumbered.types le (fun s hs => ?_) (Nat.le_refl _) (Nat.le_succ _) rfl rfl rfl
      rcases (mem_add rfl fresh).mp hs with rfl | hs
      · exact .inr (.inr ⟨u.nextConstructed, Nat.lt_succ_self _, token⟩)
      · exact .inl hs
    have layered : (u.record key t).Layered := hu.toLayered.add rfl fresh shaped
    have interned := hu.toInterned.record fresh missing keyed
    have size : (u.record key t).types.length = u.types.length + 1 := length_add rfl fresh
    exact ⟨{ layered, interned, numbered with }, le, by omega, List.prefix_rfl⟩
  | @operate o input output admitted =>
    have layered : (u.addOperator o).Layered := hu.toLayered.congr rfl
    have interned : (u.addOperator o).Interned := hu.toInterned.congr rfl rfl
    have numbered := hu.toNumbered.operate admitted
    exact ⟨{ layered, interned, numbered with },
      fun _ h => h, Nat.le_refl _, List.prefix_append _ _⟩

theorem Changes.withinRows (c : Changes u v) (hv : v.WithinRows) : u.WithinRows := by
  induction c with
  | refl => exact hv
  | tail _ c ih => exact ih (c.withinRows hv)

theorem WellFormed.changes (hu : u.WellFormed) (c : Changes u v) (hv : v.WithinRows) :
    v.WellFormed ∧ u.Extends v := by
  induction c with
  | refl => exact ⟨hu, .refl u⟩
  | tail _ c ih =>
    obtain ⟨hw, le⟩ := ih (c.withinRows hv)
    obtain ⟨hv, le'⟩ := hw.change c hv
    exact ⟨hv, le.trans le'⟩

/-- **A step keeps a universe well formed**, and the universe grows. -/
theorem WellFormed.step (hu : u.WellFormed) (s : u.Step v) (hv : v.WithinRows) :
    v.WellFormed ∧ u.Extends v :=
  hu.changes (s.changes hu) hv

/-- **Every built universe is well formed.** -/
theorem Built.wellFormed (h : u.Built) : u.WellFormed := by
  induction h with
  | initial => exact wellFormed_initial
  | step _ s rows ih => exact (ih.step s rows).1

end Universe

end TypeConversion
