import TypeConversion.Universe.Hierarchy
import TypeConversion.Proofs.Universe.Preservation

/-!
# Chains of bases

* `Universe.Derives u t s`: `s` is on the chain of bases of `t`.
* `mem_ancestors_iff` and `isSubclassOf_iff`: the chain that is followed step by step is that
  relation. It ends before the steps run out since the rank falls along it.
* `ancestors_extends`: the bases of a type stay the same, in the same order, as a universe grows.
-/

namespace TypeConversion.Universe

variable {u v : Universe} {r s t : TypeDescriptor} {rank : Token → Nat}

/-- A rank falls from a type to its base. -/
def FallsToBase (u : Universe) (rank : Token → Nat) : Prop :=
  ∀ t ∈ u, ∀ k, t.base = some k → rank k < rank t.token

theorem IsRank.fallsToBase (hr : u.IsRank rank) : u.FallsToBase rank := fun t ht k h =>
  hr.falls t ht k (TypeDescriptor.mem_mentions_base h)

/-- A type on the chain of bases of another. -/
inductive Derives (u : Universe) : TypeDescriptor → TypeDescriptor → Prop
  | base {t s : TypeDescriptor} (h : t.base = some s.token) (hs : s ∈ u) : Derives u t s
  | next {t r s : TypeDescriptor} (h : t.base = some r.token) (hr : r ∈ u) (hd : Derives u r s) :
      Derives u t s

namespace Derives

theorem mem (h : u.Derives t s) : s ∈ u := by
  induction h with
  | base _ hs => exact hs
  | next _ _ _ ih => exact ih

theorem trans (h : u.Derives t r) (h' : u.Derives r s) : u.Derives t s := by
  induction h with
  | base h hr => exact .next h hr h'
  | next h hr _ ih => exact .next h hr (ih h')

/-- Only the base counts for what a type derives from. -/
theorem of_base_eq (e : r.base = t.base) (h : u.Derives t s) : u.Derives r s := by
  cases h with
  | base h hs => exact .base (e.trans h) hs
  | next h hr hd => exact .next (e.trans h) hr hd

/-- What a type derives from is its base or above it. -/
theorem of_base (base : t.base = some r.token) (hr : r ∈ u) (h : u.Derives t s) :
    s = r ∨ u.Derives r s := by
  cases h with
  | base h hs => exact .inl (eq_of_token_eq hs hr (Option.some.inj (h.symm.trans base)))
  | next h hq hd =>
    obtain rfl := eq_of_token_eq hq hr (Option.some.inj (h.symm.trans base))
    exact .inr hd

theorem base_ne_none (h : u.Derives t s) : t.base ≠ none := by
  cases h with
  | base h _ => simp [h]
  | next h _ _ => simp [h]

theorem rank_lt (falls : u.FallsToBase rank) (ht : t ∈ u) (h : u.Derives t s) :
    rank s.token < rank t.token := by
  induction h with
  | base h _ => exact falls _ ht _ h
  | next h hmem _ ih => exact (ih hmem).trans (falls _ ht _ h)

/-- A base is neither an interface nor sealed. -/
theorem isOpen (hu : u.Layered) (ht : t ∈ u) (h : u.Derives t s) :
    s.isInterface = false ∧ s.isSealed = false := by
  induction h with
  | base h hs =>
    obtain ⟨b, hb, e, open_⟩ := (hu.shaped _ ht).base_open _ h
    rwa [eq_of_token_eq hs hb e.symm]
  | next _ hr _ ih => exact ih hr

theorem mono (le : ∀ s ∈ u, s ∈ v) (h : u.Derives t s) : v.Derives t s := by
  induction h with
  | base h hs => exact .base h (le _ hs)
  | next h hr _ ih => exact .next h (le _ hr) ih

end Derives

/-- The base of a type belongs to the universe. -/
theorem Layered.exists_base (hu : u.Layered) (ht : t ∈ u) {k : Token} (h : t.base = some k) :
    ∃ s ∈ u, s.token = k :=
  (hu.shaped t ht).mentioned k (TypeDescriptor.mem_mentions_base h)

/-! ## Following the chain -/

/-- More steps than the rank of the first base make no difference. -/
theorem baseChain_fuel (falls : u.FallsToBase rank) {n m : Nat} {start : Option Token}
    (hn : ∀ k, start = some k → rank k < n) (hm : ∀ k, start = some k → rank k < m) :
    u.baseChain n start = u.baseChain m start := by
  induction n generalizing m start with
  | zero =>
    cases start with
    | none => cases m <;> rfl
    | some k => exact absurd (hn k rfl) (Nat.not_lt_zero _)
  | succ n ih =>
    cases start with
    | none => cases m <;> rfl
    | some k =>
      obtain ⟨m, rfl⟩ := Nat.exists_eq_succ_of_ne_zero (Nat.ne_zero_of_lt (hm k rfl))
      rw [baseChain, baseChain]
      cases hk : u.find? k with
      | none => rfl
      | some b =>
        obtain ⟨hb, rfl⟩ := mem_of_find?_eq_some hk
        have below : ∀ {n}, rank b.token < n + 1 → ∀ k, b.base = some k → rank k < n :=
          fun h k hk => by have := falls b hb k hk; omega
        exact congrArg (b :: ·) (ih (below (hn _ rfl)) (below (hm _ rfl)))

/-- The chain from a base holds that base and what it derives from. -/
theorem mem_baseChain_iff (hr : u.IsRank rank) {n : Nat} {k : Token} (hn : rank k < n) :
    s ∈ u.baseChain n (some k) ↔ ∃ r ∈ u, r.token = k ∧ (s = r ∨ u.Derives r s) := by
  induction n generalizing k with
  | zero => exact absurd hn (Nat.not_lt_zero _)
  | succ n ih =>
    rw [baseChain]
    cases hk : u.find? k with
    | none =>
      simp only [List.not_mem_nil, false_iff, not_exists, not_and]
      rintro r hru rfl
      rw [mem_iff.mp hru] at hk
      cases hk
    | some b =>
      obtain ⟨hb, rfl⟩ := mem_of_find?_eq_some hk
      have rest : s ∈ u.baseChain n b.base ↔ u.Derives b s := by
        cases hbase : b.base with
        | none =>
          have empty : u.baseChain n none = [] := by cases n <;> rfl
          simp only [empty, List.not_mem_nil, false_iff]
          exact fun h => h.base_ne_none hbase
        | some j =>
          have falls := hr.falls b hb j (TypeDescriptor.mem_mentions_base hbase)
          rw [ih (by omega)]
          refine ⟨?_, fun h => ?_⟩
          · rintro ⟨r, hru, rfl, rfl | h⟩
            · exact .base hbase hru
            · exact .next hbase hru h
          · cases h with
            | base h hs => exact ⟨s, hs, by simpa [hbase] using h.symm, .inl rfl⟩
            | @next _ r _ h hru hd => exact ⟨r, hru, by simpa [hbase] using h.symm, .inr hd⟩
      simp only [List.mem_cons, rest]
      refine ⟨fun h => ⟨b, hb, rfl, h⟩, ?_⟩
      rintro ⟨r, hru, e, h⟩
      rwa [eq_of_token_eq hru hb e] at h

/-- The bases of a type are the types that it derives from. -/
theorem mem_ancestors_iff (hu : u.Layered) (ht : t ∈ u) : s ∈ u.ancestors t ↔ u.Derives t s := by
  obtain ⟨rank, hr⟩ := hu.ranked
  rw [ancestors]
  cases hbase : t.base with
  | none =>
    have empty : u.baseChain u.types.length none = [] := by cases u.types.length <;> rfl
    simp only [empty, List.not_mem_nil, false_iff]
    exact fun h => h.base_ne_none hbase
  | some k =>
    obtain ⟨b, hb, rfl⟩ := hu.exists_base ht hbase
    rw [mem_baseChain_iff hr (hr.below b hb)]
    refine ⟨?_, fun h => ?_⟩
    · rintro ⟨r, hru, e, rfl | h⟩
      · exact .base (e ▸ hbase) hru
      · exact .next (e ▸ hbase) hru h
    · cases h with
      | base h hs => exact ⟨s, hs, by simpa [hbase] using h.symm, .inl rfl⟩
      | @next _ r _ h hru hd => exact ⟨r, hru, by simpa [hbase] using h.symm, .inr hd⟩

/-- A type is a subclass of the types that it derives from. -/
theorem isSubclassOf_iff (hu : u.Layered) (ht : t ∈ u) (hs : s ∈ u) :
    u.isSubclassOf t s = true ↔ u.Derives t s := by
  simp only [isSubclassOf, List.any_cons, Bool.or_eq_true, List.any_eq_true, beq_iff_eq,
    mem_ancestors_iff hu ht]
  refine ⟨?_, fun h => ?_⟩
  · rintro (h | ⟨r, hr, h⟩)
    · exact .base h hs
    · exact hr.trans (.base h hs)
  · clear ht
    induction h with
    | base h _ => exact .inl h
    | @next t r s h hr hd ih =>
      rcases ih hs with e | ⟨q, hq, e⟩
      · exact .inr ⟨r, .base h hr, e⟩
      · exact .inr ⟨q, .next h hr hq, e⟩

/-! ## Growth -/

theorem baseChain_extends (hu : u.Layered) (le : u.Extends v) (n : Nat) {start : Option Token}
    (known : ∀ k, start = some k → ∃ s ∈ u, s.token = k) :
    v.baseChain n start = u.baseChain n start := by
  induction n generalizing start with
  | zero => rfl
  | succ n ih =>
    cases start with
    | none => rfl
    | some k =>
      obtain ⟨s, hs, rfl⟩ := known k rfl
      simp only [baseChain, mem_iff.mp hs, mem_iff.mp (le.mem s hs)]
      rw [ih fun k hk => hu.exists_base hs hk]

/-- The bases of a type stay the same, in the same order, as the universe grows. -/
theorem ancestors_extends (hu : u.Layered) (le : u.Extends v) (ht : t ∈ u) :
    v.ancestors t = u.ancestors t := by
  obtain ⟨rank, hr⟩ := hu.ranked
  have below : ∀ k, t.base = some k → rank k < u.types.length := by
    intro k hk
    obtain ⟨s, hs, rfl⟩ := hu.exists_base ht hk
    exact hr.below s hs
  calc v.ancestors t = u.baseChain v.types.length t.base :=
        baseChain_extends hu le _ fun k hk => hu.exists_base ht hk
    _ = u.ancestors t := baseChain_fuel hr.fallsToBase
        (fun k hk => (below k hk).trans_le le.size) below

end TypeConversion.Universe
