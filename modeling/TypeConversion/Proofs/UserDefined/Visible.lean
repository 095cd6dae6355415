import TypeConversion.UserDefined.Resolution
import TypeConversion.Proofs.Universe.Mentions
import TypeConversion.Proofs.Universe.Bases
import Mathlib.Data.List.Nodup

/-!
# The operators that a request can use

* `Universe.Sees u t o`: the operator `o` is declared by `t` or by one of its bases.
* `mem_visibleOperators_iff` and `mem_operatorPool_iff`: the operators that are found for a type and
  for a request are those that it sees. No two operators share a token, so none is taken for
  another.
* `OperatorCache.Coherent u c`: what the cache remembers of the present generation is what would be
  found now. It holds of every cache that a run leads to (`OperatorCache.Reached.coherent`), and
  then resolving by way of the cache is resolving in the universe
  (`OperatorCache.Coherent.resolve_eq`).
-/

namespace TypeConversion

open Universe

-- Powers are those of the core library, also where another library has its own.
attribute [local instance (2000)] instPowNat

/-- With distinct tokens, the distinct items are all items. -/
theorem Token.mem_distinct_iff {α : Type} {token : α → Token} {l : List α} {x : α}
    (inj : ∀ y ∈ l, ∀ z ∈ l, token y = token z → y = z) : x ∈ distinct token l ↔ x ∈ l := by
  refine ⟨fun h => (distinct_sublist token l).subset h, fun h => ?_⟩
  obtain ⟨y, hy, e⟩ := exists_mem_distinct token h
  rwa [← inj y ((distinct_sublist token l).subset hy) x h e]

/-- Items with distinct tokens are all kept. -/
theorem Token.distinct_eq_self {α : Type} {token : α → Token} {l : List α}
    (h : (l.map token).Nodup) : distinct token l = l := by
  induction l with
  | nil => rfl
  | cons x l ih =>
    rw [List.map_cons, List.nodup_cons] at h
    rw [distinct, ih h.2, List.filter_eq_self.mpr]
    intro y hy
    have other : token y ≠ token x := fun same => h.1 (same ▸ List.mem_map_of_mem hy)
    simpa using other

namespace Universe

variable {u v : Universe} {s t : TypeDescriptor} {o p : Operator}

theorem Built.withinRows (h : u.Built) : u.WithinRows := by
  cases h with
  | initial => constructor <;> decide
  | step _ _ rows => exact rows

/-- The rows of the table of operators have distinct tokens, as long as it is not exhausted. -/
theorem nodup_operatorRows {n : Nat} (rows : n < 2 ^ (24 : Nat)) :
    ((List.range n).map fun i => Token.ofParts Token.operatorTable (i + 1)).Nodup := by
  refine List.nodup_range.map_on fun i hi j hj e => ?_
  rw [List.mem_range] at hi hj
  have parts := Token.ofParts_inj (by decide) (by decide) (by omega) (by omega) e
  omega

/-- The tokens of operators are distinct. -/
theorem Built.nodup_operators (h : u.Built) : (u.operators.map Operator.token).Nodup := by
  have rows := h.withinRows.operator
  have numbered := h.wellFormed.toNumbered
  rw [numbered.next] at rows
  rw [numbered.rows]
  exact nodup_operatorRows (Nat.lt_of_succ_le rows)

theorem Built.operator_inj (h : u.Built) (ho : o ∈ u.operators) (hp : p ∈ u.operators)
    (e : o.token = p.token) : o = p :=
  List.inj_on_of_nodup_map h.nodup_operators ho hp e

/-- An operator of the universe that a type or one of its bases declares. -/
def Sees (u : Universe) (t : TypeDescriptor) (o : Operator) : Prop :=
  o ∈ u.operators ∧ (o.declaring = t.token ∨ ∃ b, u.Derives t b ∧ o.declaring = b.token)

theorem mem_operatorsDeclaredBy :
    o ∈ u.operatorsDeclaredBy t ↔ o ∈ u.operators ∧ o.declaring = t.token := by
  simp [operatorsDeclaredBy]

theorem mem_flatMap_operatorsDeclaredBy (hu : u.Layered) (ht : t ∈ u) :
    o ∈ (t :: u.ancestors t).flatMap u.operatorsDeclaredBy ↔ u.Sees t o := by
  simp only [List.mem_flatMap, List.mem_cons, mem_operatorsDeclaredBy, mem_ancestors_iff hu ht,
    Sees]
  constructor
  · rintro ⟨b, rfl | hb, ho, e⟩
    · exact ⟨ho, .inl e⟩
    · exact ⟨ho, .inr ⟨b, hb, e⟩⟩
  · rintro ⟨ho, e | ⟨b, hb, e⟩⟩
    · exact ⟨t, .inl rfl, ho, e⟩
    · exact ⟨b, .inr hb, ho, e⟩

/-- The operators found for a type are those that it sees. -/
theorem mem_visibleOperators_iff (hu : u.Built) (ht : t ∈ u) :
    o ∈ u.visibleOperators t ↔ u.Sees t o := by
  have layered := hu.wellFormed.toLayered
  rw [visibleOperators, Token.mem_distinct_iff, mem_flatMap_operatorsDeclaredBy layered ht]
  intro y hy z hz e
  rw [mem_flatMap_operatorsDeclaredBy layered ht] at hy hz
  exact hu.operator_inj hy.1 hz.1 e

/-- **The operators found for a request** are those that its types, taken out of their optionals,
see. -/
theorem mem_operatorPool_iff (hu : u.Built) (hs : s ∈ u) (ht : t ∈ u) :
    o ∈ u.operatorPool s t ↔
      u.Sees (u.unwrapOptional s) o ∨ u.Sees (u.unwrapOptional t) o := by
  have layered := hu.wellFormed.toLayered
  have pool : ∀ {o}, o ∈ u.visibleOperators (u.unwrapOptional s)
        ++ u.visibleOperators (u.unwrapOptional t) ↔
      u.Sees (u.unwrapOptional s) o ∨ u.Sees (u.unwrapOptional t) o := by
    intro o
    rw [List.mem_append, mem_visibleOperators_iff hu (unwrapOptional_mem layered hs),
      mem_visibleOperators_iff hu (unwrapOptional_mem layered ht)]
  rw [operatorPool, Token.mem_distinct_iff, pool]
  intro y hy z hz e
  rw [pool] at hy hz
  exact hu.operator_inj (hy.elim And.left And.left) (hz.elim And.left And.left) e

/-- What is found for a request is declared. -/
theorem mem_operators_of_mem_operatorPool (h : o ∈ u.operatorPool s t) : o ∈ u.operators := by
  have visible : ∀ {x}, o ∈ u.visibleOperators x → o ∈ u.operators := by
    intro x hx
    have hx := (Token.distinct_sublist Operator.token _).subset hx
    obtain ⟨y, -, hy⟩ := List.mem_flatMap.mp hx
    exact (mem_operatorsDeclaredBy.mp hy).1
  have h := (Token.distinct_sublist Operator.token _).subset h
  exact (List.mem_append.mp h).elim visible visible

/-- The operators found for a type stay the same while none is declared. -/
theorem visibleOperators_extends (hu : u.Layered) (le : u.Extends v)
    (same : v.operators = u.operators) (ht : t ∈ u) :
    v.visibleOperators t = u.visibleOperators t := by
  have declared : v.operatorsDeclaredBy = u.operatorsDeclaredBy := by
    funext b
    rw [operatorsDeclaredBy, operatorsDeclaredBy, same]
  rw [visibleOperators, visibleOperators, ancestors_extends hu le ht, declared]

/-- A universe that grew without declaring an operator has the same operators. -/
theorem operators_eq_of_generation_eq (hu : u.Numbered) (hv : v.Numbered) (le : u.Extends v)
    (h : v.operatorGeneration = u.operatorGeneration) : v.operators = u.operators := by
  rw [hu.generation, hv.generation] at h
  exact (le.operators.eq_of_length h.symm).symm

theorem operatorGeneration_le (hu : u.Numbered) (hv : v.Numbered) (le : u.Extends v) :
    u.operatorGeneration ≤ v.operatorGeneration := by
  rw [hu.generation, hv.generation]
  exact le.operators.length_le

end Universe

/-! ## The cache of visible operators -/

namespace OperatorCache

variable {u v : Universe} {s t : TypeDescriptor} {c : OperatorCache}

/-- The cache remembers types of the universe, no later generation, and of the present one what is
found in the universe. -/
def Coherent (u : Universe) (c : OperatorCache) : Prop :=
  ∀ token generation operators, c.find? token = some (generation, operators) →
    generation ≤ u.operatorGeneration ∧ ∃ t ∈ u, t.token = token ∧
      (generation = u.operatorGeneration → operators = u.visibleOperators t)

theorem coherent_empty (u : Universe) : Coherent u {} := by
  intro token generation operators h
  cases h

theorem Coherent.visible_eq (h : Coherent u c) (ht : t ∈ u) :
    (c.visible u t).1 = u.visibleOperators t := by
  unfold visible
  split
  · rename_i generation operators found
    obtain ⟨-, s, hs, same, visible⟩ := h _ _ _ found
    split
    · rw [eq_of_token_eq ht hs same.symm]
      exact visible ‹_›
    · rfl
  · rfl

theorem Coherent.insert (h : Coherent u c) (ht : t ∈ u) :
    Coherent u (c.insert t.token u.operatorGeneration (u.visibleOperators t)) := by
  intro token generation operators found
  rw [find?_insert] at found
  split at found
  · rename_i same
    cases found
    exact ⟨Nat.le_refl _, t, ht, same.symm, fun _ => rfl⟩
  · exact h _ _ _ found

theorem Coherent.visible (h : Coherent u c) (ht : t ∈ u) : Coherent u (c.visible u t).2 := by
  unfold OperatorCache.visible
  split
  · split
    · exact h
    · exact h.insert ht
  · exact h.insert ht

/-- The cache stays coherent as the universe grows. -/
theorem Coherent.extends (hu : u.WellFormed) (hv : v.WellFormed) (le : u.Extends v)
    (h : Coherent u c) : Coherent v c := by
  intro token generation operators found
  obtain ⟨old, t, ht, same, visible⟩ := h _ _ _ found
  have grown := operatorGeneration_le hu.toNumbered hv.toNumbered le
  refine ⟨old.trans grown, t, le.mem t ht, same, fun now => ?_⟩
  have none : v.operatorGeneration = u.operatorGeneration := by omega
  rw [visibleOperators_extends hu.toLayered le
    (operators_eq_of_generation_eq hu.toNumbered hv.toNumbered le none) ht]
  exact visible (now.trans none)

theorem Coherent.pool_eq (hu : u.Layered) (h : Coherent u c) (hs : s ∈ u) (ht : t ∈ u) :
    (c.pool u s t).1 = u.operatorPool s t := by
  have hs := unwrapOptional_mem hu hs
  have first : (c.visible u (u.unwrapOptional s)).1 = _ := h.visible_eq hs
  have second : ((c.visible u (u.unwrapOptional s)).2.visible u (u.unwrapOptional t)).1 = _ :=
    (h.visible hs).visible_eq (unwrapOptional_mem hu ht)
  simp only [pool, operatorPool, first, second]

theorem Coherent.pool (hu : u.Layered) (h : Coherent u c) (hs : s ∈ u) (ht : t ∈ u) :
    Coherent u (c.pool u s t).2 :=
  (h.visible (unwrapOptional_mem hu hs)).visible (unwrapOptional_mem hu ht)

/-- **Resolving by way of a coherent cache is resolving in the universe.** -/
theorem Coherent.resolve_eq (hu : u.Layered) (h : Coherent u c) (hs : s ∈ u) (ht : t ∈ u) :
    (c.resolve u s t).1 = u.resolveUserDefined s t :=
  congrArg (Resolution.ofPool u · s t) (h.pool_eq hu hs ht)

/-- The caches that look-ups lead to while a built universe grows. -/
inductive Reached : Universe → OperatorCache → Prop
  | fresh {u : Universe} (h : u.Built) : Reached u {}
  | look {u : Universe} {c : OperatorCache} {t : TypeDescriptor} (h : Reached u c) (ht : t ∈ u) :
      Reached u (c.visible u t).2
  | grow {u v : Universe} {c : OperatorCache} (h : Reached u c) (s : u.Step v)
      (rows : v.WithinRows) : Reached v c

/-- **Every cache that a run leads to is coherent.** -/
theorem Reached.coherent (h : Reached u c) : u.Built ∧ Coherent u c := by
  induction h with
  | fresh h => exact ⟨h, coherent_empty _⟩
  | look _ ht ih => exact ⟨ih.1, ih.2.visible ht⟩
  | grow _ s rows ih =>
    obtain ⟨wellFormed, le⟩ := ih.1.wellFormed.step s rows
    exact ⟨.step ih.1 s rows, ih.2.extends ih.1.wellFormed wellFormed le⟩

end OperatorCache

end TypeConversion
