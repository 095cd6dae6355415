import TypeConversion.Proofs.Universe.OperatorTable

/-!
# Looking operators up in a run

While a universe grows, the operators visible on its types are looked up through one cache, which is
cleared at times. What it answers is told by the story of the run alone: which operators have been
accepted, and which bases a type has.

* `Universe.Lineage u t bases`: the bases of a type in a row, the nearest first.
* `visibleOperators_eq`: no operator comes twice along a lineage, so the operators visible on a
  type are those that it declares and then those of its bases.
* `OperatorCache.Run u c log`: a run that has led to the universe `u` and the cache `c`, in which
  the operators of `log` have been accepted.
* `visible_eq_accepted`: what the cache answers after every run.
-/

namespace TypeConversion

-- Powers are those of the core library, also where another library has its own.
attribute [local instance (2000)] instPowNat

namespace Universe

variable {u v : Universe} {t b : TypeDescriptor} {bases : List TypeDescriptor}
  {rank : Token → Nat}

/-! ## Lineages -/

/-- The bases of a type in a row, the nearest first, up to a type without a base. -/
inductive Lineage (u : Universe) : TypeDescriptor → List TypeDescriptor → Prop
  | root {t : TypeDescriptor} (h : t.base = none) : Lineage u t []
  | base {t b : TypeDescriptor} {bases : List TypeDescriptor} (h : t.base = some b.token)
      (hb : b ∈ u) (rest : Lineage u b bases) : Lineage u t (b :: bases)

namespace Lineage

theorem derives (h : u.Lineage t bases) : ∀ b ∈ bases, u.Derives t b := by
  induction h with
  | root _ => simp
  | base h hb _ ih =>
    intro s hs
    rcases List.mem_cons.mp hs with rfl | hs
    · exact .base h hb
    · exact .next h hb (ih s hs)

/-- The rank falls along a lineage, so no type comes twice. -/
theorem nodup (hr : u.FallsToBase rank) (ht : t ∈ u) (h : u.Lineage t bases) :
    ((t :: bases).map TypeDescriptor.token).Nodup := by
  have falls : (t :: bases).Pairwise fun s b => rank b.token < rank s.token := by
    induction h with
    | root _ => exact List.pairwise_singleton _ _
    | @base t b bases h hb rest ih =>
      have line : u.Lineage t (b :: bases) := .base h hb rest
      exact List.pairwise_cons.mpr ⟨fun s hs => (line.derives s hs).rank_lt hr ht, ih hb⟩
  refine List.pairwise_map.mpr (falls.imp fun lower same => ?_)
  rw [same] at lower
  exact Nat.lt_irrefl _ lower

end Lineage

theorem lineage_baseChain (hu : u.Layered) (hr : u.FallsToBase rank) {n : Nat} (ht : t ∈ u)
    (hn : ∀ k, t.base = some k → rank k < n) : u.Lineage t (u.baseChain n t.base) := by
  induction n generalizing t with
  | zero =>
    cases base : t.base with
    | none => exact .root base
    | some k => exact absurd (hn k base) (Nat.not_lt_zero _)
  | succ n ih =>
    cases base : t.base with
    | none => exact .root base
    | some k =>
      obtain ⟨b, hb, rfl⟩ := hu.exists_base ht base
      rw [baseChain, mem_iff.mp hb]
      refine .base base hb (ih hb fun k hk => ?_)
      have lower := hr b hb k hk
      have bound := hn _ base
      omega

/-- **The bases that are followed step by step are the lineage of the type.** -/
theorem lineage_ancestors (hu : u.Layered) (ht : t ∈ u) : u.Lineage t (u.ancestors t) := by
  obtain ⟨rank, hr⟩ := hu.ranked
  refine lineage_baseChain hu hr.fallsToBase ht fun k hk => ?_
  obtain ⟨b, hb, rfl⟩ := hu.exists_base ht hk
  exact hr.below b hb

/-! ## Declared operators along a lineage -/

/-- No operator comes twice along types with distinct tokens: each has one declaring type. -/
theorem nodup_flatMap_operatorsDeclaredBy (hu : u.Built) {types : List TypeDescriptor}
    (distinct : (types.map TypeDescriptor.token).Nodup) :
    ((types.flatMap u.operatorsDeclaredBy).map Operator.token).Nodup := by
  have single : (types.flatMap u.operatorsDeclaredBy).Nodup := by
    refine List.nodup_flatMap.mpr ⟨fun b _ => ?_, (List.pairwise_map.mp distinct).imp ?_⟩
    · exact hu.nodup_operators.of_map.filter _
    · intro s b other o hs hb
      exact other ((mem_operatorsDeclaredBy.mp hs).2.symm.trans (mem_operatorsDeclaredBy.mp hb).2)
  refine single.map_on fun o ho p hp same => ?_
  obtain ⟨_, -, ho⟩ := List.mem_flatMap.mp ho
  obtain ⟨_, -, hp⟩ := List.mem_flatMap.mp hp
  exact hu.operator_inj (mem_operatorsDeclaredBy.mp ho).1 (mem_operatorsDeclaredBy.mp hp).1 same

/-- **The operators visible on a type** are those that it declares and then those of its bases, the
nearest first; dropping repetitions drops none. -/
theorem visibleOperators_eq (hu : u.Built) (ht : t ∈ u) :
    u.visibleOperators t = (t :: u.ancestors t).flatMap u.operatorsDeclaredBy := by
  have layered := hu.wellFormed.toLayered
  obtain ⟨rank, hr⟩ := layered.ranked
  exact Token.distinct_eq_self (nodup_flatMap_operatorsDeclaredBy hu
    ((lineage_ancestors layered ht).nodup hr.fallsToBase ht))

/-- Every step is a call that accepts some operators or none. -/
theorem Step.exists_call (s : u.Step v) : ∃ log, u.Call log v := by
  cases s with
  | allocate => exact ⟨[], .quiet .allocate⟩
  | build d _ _ => exact ⟨_, .build d⟩
  | optionalOf _ made => exact ⟨[], .quiet (.optionalOf made)⟩
  | arrayOf _ made => exact ⟨[], .quiet (.arrayOf made)⟩
  | instantiate _ _ made => exact ⟨[], .quiet (.instantiate made)⟩
  | declareOperator made => exact ⟨_, call_of_declareOperator made⟩

end Universe

namespace OperatorCache

open Universe

variable {u v : Universe} {c : OperatorCache} {log : List Operator} {t : TypeDescriptor}

/-- The runs from the initial universe and an empty cache: requests to the universe over its own
types, which can be refused, look-ups of any of its types, and clearing the cache, in any order. The
list holds the operators that have been accepted so far. -/
inductive Run : Universe → OperatorCache → List Operator → Prop
  | start : Run .initial {} []
  | request {u v : Universe} {c : OperatorCache} {log more : List Operator} (run : Run u c log)
      (own : v = u ∨ u.Step v) (rows : v.WithinRows) (call : u.Call more v) : Run v c (log ++ more)
  | look {u : Universe} {c : OperatorCache} {log : List Operator} {t : TypeDescriptor}
      (run : Run u c log) (ht : t ∈ u) : Run u (c.visible u t).2 log
  | clear {u : Universe} {c : OperatorCache} {log : List Operator} (run : Run u c log) :
      Run u {} log

namespace Run

theorem logs (run : Run u c log) : Logs initial log u := by
  induction run with
  | start => exact .start
  | request _ _ _ call ih => exact ih.call call
  | look _ _ ih => exact ih
  | clear _ ih => exact ih

theorem reached (run : Run u c log) : Reached u c := by
  induction run with
  | start => exact .fresh .initial
  | request _ own rows _ ih =>
    rcases own with rfl | step
    · exact ih
    · exact ih.grow step rows
  | look _ ht ih => exact ih.look ht
  | clear _ ih => exact .fresh ih.coherent.1

end Run

/-- **A cache of operators is never out of date.** After every run, the operators that a look-up
gives are those accepted so far that the type declares, and then those that its bases declare, the
nearest base first, each in the order in which they were accepted and none of them twice, whether
they were remembered or found now. A run can go on with every operation on the universe. -/
theorem visible_eq_accepted (run : Run u c log) (ht : t ∈ u) :
    (∃ bases, u.Lineage t bases ∧ (c.visible u t).1
      = (t :: bases).flatMap fun b => log.filter fun o => o.declaring == b.token) ∧
    ((c.visible u t).1.map Operator.token).Nodup ∧
    ∀ v, u.Step v → v.WithinRows → ∃ more, u.Call more v ∧ Run v c (log ++ more) := by
  obtain ⟨built, coherent⟩ := run.reached.coherent
  have answer : (c.visible u t).1 = u.visibleOperators t := coherent.visible_eq ht
  have declared : u.operatorsDeclaredBy = fun b => log.filter fun o => o.declaring == b.token := by
    funext b
    rw [operatorsDeclaredBy, run.logs.singly.recorded.operators]
  refine ⟨⟨_, lineage_ancestors built.wellFormed.toLayered ht, ?_⟩, ?_, fun v step rows => ?_⟩
  · rw [answer, visibleOperators_eq built ht, declared]
  · rw [answer]
    exact Token.nodup_map_distinct _ _
  · obtain ⟨more, call⟩ := step.exists_call
    exact ⟨more, call, run.request (.inr step) rows call⟩

/-- Truth values get an operator to numbers, which is looked up. Then the base of all values gets
one to texts. What is remembered of truth values is passed over, and the look-up gives both
operators, that of truth values first. -/
theorem visible_eq_accepted_boolean : ∃ (u : Universe) (c : OperatorCache) (o p : Operator)
    (bases : List TypeDescriptor), Run u c [o, p] ∧
      c.find? FrameworkType.boolean.token = some (1, [o]) ∧
      u.Lineage FrameworkType.boolean.descriptor bases ∧
      (c.visible u FrameworkType.boolean.descriptor).1
        = ((FrameworkType.boolean.descriptor :: bases).flatMap fun b =>
            [o, p].filter fun q => q.declaring == b.token) ∧
      (c.visible u FrameworkType.boolean.descriptor).1 = [o, p] := by
  let boolean := FrameworkType.boolean.token
  let value := FrameworkType.valueType.token
  let number := (NumericKind.integer .int32).token
  let text := FrameworkType.string.token
  obtain ⟨o, v, first⟩ : ∃ o v, initial.declareOperator boolean boolean number true .ok
      = .ok (o, v) := ⟨_, _, rfl⟩
  obtain ⟨p, w, second⟩ : ∃ p w, v.declareOperator value value text false .ok = .ok (p, w) := by
    cases first
    exact ⟨_, _, rfl⟩
  have rows : v.WithinRows ∧ w.WithinRows := by
    cases first
    cases second
    exact ⟨by constructor <;> decide, by constructor <;> decide⟩
  have known : FrameworkType.boolean.descriptor ∈ v := by
    cases first
    decide
  have before : Run v {} [o] := .request .start (.inr (.declareOperator first)) rows.1
    (call_of_declareOperator first)
  have run := (before.look known).request (.inr (.declareOperator second)) rows.2
    (call_of_declareOperator second)
  have still : FrameworkType.boolean.descriptor ∈ w := by
    cases first
    cases second
    decide
  obtain ⟨⟨bases, lineage, answer⟩, -⟩ := visible_eq_accepted run still
  refine ⟨w, _, o, p, bases, run, ?_, lineage, answer, ?_⟩
  all_goals
    cases first
    cases second
    rfl

end OperatorCache

end TypeConversion
