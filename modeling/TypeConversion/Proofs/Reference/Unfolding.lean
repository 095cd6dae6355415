import TypeConversion.Reference
import TypeConversion.Proofs.Universe.Interfaces
import TypeConversion.Proofs.Universe.Mentions

/-!
# The relations solve their rules

The rules ask only for conversions between types of a lower rank than those asked about, so more
unfoldings than the sum of the two ranks make no difference.

* `isImplicitReference_eq` and `isExplicitReference_eq`: between types of the universe the relations
  are fixed points of the rules.
* `isImplicitReference_extends` and `isExplicitReference_extends`: the conversions between types of
  a universe stay the same as it grows.

Both come from one congruence for each rule, `implicitRule_congr` and `explicitRule_congr`: from a
universe to one that grew out of it, a rule depends on nothing but the smaller conversions.
-/

namespace TypeConversion.Reference

open Universe

variable {u v : Universe} {s t a b : TypeDescriptor} {rank : Token → Nat}

/-! ## Congruence -/

section Congruence

variable {direct reversed direct' reversed' : Relation}

theorem argumentsConvert_congr {parameters : List GenericParameter} {as bs : List TypeDescriptor}
    (hd : ∀ a ∈ as, ∀ b ∈ bs, direct' a b = direct a b)
    (hr : ∀ a ∈ as, ∀ b ∈ bs, reversed' a b = reversed a b) :
    argumentsConvert direct' reversed' parameters as bs
      = argumentsConvert direct reversed parameters as bs := by
  induction parameters generalizing as bs with
  | nil => rfl
  | cons p ps ih =>
    cases as with
    | nil => rfl
    | cons a as =>
      cases bs with
      | nil => rfl
      | cons b bs =>
        rw [argumentsConvert, argumentsConvert, argumentConverts, argumentConverts,
          hd a List.mem_cons_self b List.mem_cons_self,
          hr a List.mem_cons_self b List.mem_cons_self,
          ih (fun a ha b hb => hd a (List.mem_cons_of_mem _ ha) b (List.mem_cons_of_mem _ hb))
            fun a ha b hb => hr a (List.mem_cons_of_mem _ ha) b (List.mem_cons_of_mem _ hb)]

theorem convertsByVariance_congr (hu : u.Layered) (le : u.Extends v) (hs : s ∈ u) (ht : t ∈ u)
    (hd : ∀ a ∈ u.genericArgumentsOf s, ∀ b ∈ u.genericArgumentsOf t, direct' a b = direct a b)
    (hr : ∀ a ∈ u.genericArgumentsOf s, ∀ b ∈ u.genericArgumentsOf t,
      reversed' a b = reversed a b) :
    convertsByVariance v direct' reversed' s t = convertsByVariance u direct reversed s t := by
  rw [convertsByVariance, convertsByVariance]
  have definition : ∀ k, s.genericDefinition = some k → v.find? k = u.find? k := fun k hk =>
    find?_extends le
      ((hu.shaped s hs).mentioned k (TypeDescriptor.mem_mentions_genericDefinition hk))
  simp only [genericArgumentsOf_extends hu le hs, genericArgumentsOf_extends hu le ht,
    argumentsConvert_congr hd hr]
  cases hk : s.genericDefinition with
  | none => rfl
  | some k =>
    cases t.genericDefinition with
    | none => rfl
    | some j =>
      dsimp only
      rw [definition k hk]

end Congruence

/-- Two relations agree on the types of a universe whose ranks sum to less than a bound. -/
def AgreeBelow (u : Universe) (rank : Token → Nat) (bound : Nat) (r' r : Relation) : Prop :=
  ∀ a ∈ u, ∀ b ∈ u, rank a.token + rank b.token < bound → r' a b = r a b

theorem AgreeBelow.mono {n m : Nat} {r' r : Relation} (h : AgreeBelow u rank m r' r) (le : n ≤ m) :
    AgreeBelow u rank n r' r :=
  fun a ha b hb lt => h a ha b hb (lt.trans_le le)

section Rules

variable {implicit implicit' explicit explicit' : Relation}

theorem convertsImplicitlyByVariance_congr (hu : u.Layered) (hr : u.IsRank rank)
    (le : u.Extends v) (hs : s ∈ u) (ht : t ∈ u)
    (agree : AgreeBelow u rank (rank s.token + rank t.token) implicit' implicit) :
    convertsImplicitlyByVariance v implicit' s t = convertsImplicitlyByVariance u implicit s t := by
  refine convertsByVariance_congr hu le hs ht (fun a ha b hb => ?_) fun a ha b hb => ?_
  all_goals
    have hra := rank_genericArgument_lt hr hs ha
    have hrb := rank_genericArgument_lt hr ht hb
  · exact agree a (mem_genericArgumentsOf ha).1 b (mem_genericArgumentsOf hb).1 (by omega)
  · exact agree b (mem_genericArgumentsOf hb).1 a (mem_genericArgumentsOf ha).1 (by omega)

theorem implementsVariant_congr (hu : u.Layered) (hr : u.IsRank rank) (le : u.Extends v)
    (hs : s ∈ u) (ht : t ∈ u)
    (agree : AgreeBelow u rank (rank s.token + rank t.token) implicit' implicit) :
    implementsVariant v implicit' s t = implementsVariant u implicit s t := by
  rw [implementsVariant, implementsVariant]
  congr 1
  rw [Bool.eq_iff_iff, List.any_eq_true, List.any_eq_true]
  refine exists_congr fun i => ?_
  rw [mem_interfacesOf_extends hu le hs]
  refine and_congr_right fun hi => ?_
  have lower := rank_lt_of_mem_interfacesOf hu hr hs hi
  rw [convertsImplicitlyByVariance_congr hu hr le (mem_of_mem_interfacesOf hi) ht
    (agree.mono (by omega))]

theorem lineElement?_extends (hu : u.Layered) (le : u.Extends v) (ht : t ∈ u) :
    lineElement? v t = lineElement? u t := by
  rw [lineElement?, lineElement?, elementOf?_extends hu le ht]

theorem lineElement?_eq_some {e : TypeDescriptor} :
    lineElement? u t = some e ↔ t.kind = .array 1 ∧ u.elementOf? t = some e := by
  rw [lineElement?]
  split <;> simp_all

theorem parallelElements?_extends (hu : u.Layered) (le : u.Extends v) (hs : s ∈ u) (ht : t ∈ u) :
    parallelElements? v s t = parallelElements? u s t := by
  rw [parallelElements?, parallelElements?, elementOf?_extends hu le hs,
    elementOf?_extends hu le ht]

theorem parallelElements?_eq_some :
    parallelElements? u s t = some (a, b) ↔
      s.rank? = t.rank? ∧ u.elementOf? s = some a ∧ u.elementOf? t = some b := by
  rw [parallelElements?]
  split
  · split <;> simp_all
  · simp_all

theorem listArgument?_extends (hu : u.Layered) (le : u.Extends v) (ht : t ∈ u) :
    listArgument? v t = listArgument? u t := by
  rw [listArgument?, listArgument?]
  have head : t.genericArguments.head?.bind v.find? = t.genericArguments.head?.bind u.find? := by
    cases hk : t.genericArguments.head? with
    | none => rfl
    | some k =>
      have mem := TypeDescriptor.mem_mentions_genericArguments (List.mem_of_head? hk)
      exact find?_extends le ((hu.shaped t ht).mentioned k mem)
  rw [head]

/-- The argument of a list interface belongs to the universe and has a lower rank. -/
theorem rank_listArgument?_lt (hr : u.IsRank rank) (ht : t ∈ u) (h : listArgument? u t = some a) :
    a ∈ u ∧ rank a.token < rank t.token := by
  rw [listArgument?] at h
  split at h
  · split at h
    · obtain ⟨k, hk, found⟩ := Option.bind_eq_some_iff.mp h
      obtain ⟨ha, rfl⟩ := mem_of_find?_eq_some found
      have mem := TypeDescriptor.mem_mentions_genericArguments (List.mem_of_head? hk)
      exact ⟨ha, hr.falls t ht _ mem⟩
    · cases h
  · cases h

theorem listAccepts_congr (hu : u.Layered) (hr : u.IsRank rank) (le : u.Extends v) (ht : t ∈ u)
    {converts converts' : Relation} (agree : ∀ b ∈ u, rank b.token < rank t.token →
      converts' a b = converts a b) :
    listAccepts v converts' a t = listAccepts u converts a t := by
  rw [listAccepts, listAccepts, listArgument?_extends hu le ht]
  cases h : listArgument? u t with
  | none => rfl
  | some b =>
    obtain ⟨hb, lower⟩ := rank_listArgument?_lt hr ht h
    simp only [agree b hb lower]

theorem isSubclassOf_extends (hu : u.Layered) (le : u.Extends v) (ht : t ∈ u) :
    v.isSubclassOf t s = u.isSubclassOf t s := by
  rw [isSubclassOf, isSubclassOf, ancestors_extends hu le ht]

/-- **The implicit rule depends on the conversions between smaller types only**, and not on the
types that are added to a universe. -/
theorem implicitRule_congr (hu : u.Layered) (hr : u.IsRank rank) (le : u.Extends v)
    (hs : s ∈ u) (ht : t ∈ u)
    (agree : AgreeBelow u rank (rank s.token + rank t.token) implicit' implicit) :
    implicitRule v implicit' s t = implicitRule u implicit s t := by
  rw [implicitRule, implicitRule, convertsImplicitlyByVariance_congr hu hr le hs ht agree,
    implementsVariant_congr hu hr le hs ht agree, lineElement?_extends hu le hs,
    isSubclassOf_extends hu le hs, parallelElements?_extends hu le hs ht]
  refine if_congr .rfl rfl (if_congr .rfl rfl (if_congr .rfl ?line (if_congr .rfl rfl
    (if_congr .rfl ?parallel rfl))))
  case line =>
    congr 1
    cases he : lineElement? u s with
    | none => rfl
    | some e =>
      have found := (lineElement?_eq_some.mp he).2
      have lower := rank_elementOf?_lt hr hs found
      exact listAccepts_congr hu hr le ht fun b hb hlt =>
        agree e (elementOf?_eq_some.mp found).1 b hb (by omega)
  case parallel =>
    cases he : parallelElements? u s t with
    | none => rfl
    | some e =>
      obtain ⟨-, ha, hb⟩ := parallelElements?_eq_some.mp he
      have lowerA := rank_elementOf?_lt hr hs ha
      have lowerB := rank_elementOf?_lt hr ht hb
      exact agree _ (elementOf?_eq_some.mp ha).1 _ (elementOf?_eq_some.mp hb).1 (by omega)

theorem convertsExplicitlyByVariance_congr (hu : u.Layered) (hr : u.IsRank rank)
    (le : u.Extends v) (hs : s ∈ u) (ht : t ∈ u)
    (same : ∀ a ∈ u, ∀ b ∈ u, implicit' a b = implicit a b)
    (agree : AgreeBelow u rank (rank s.token + rank t.token) explicit' explicit) :
    convertsExplicitlyByVariance v implicit' explicit' s t
      = convertsExplicitlyByVariance u implicit explicit s t := by
  refine convertsByVariance_congr hu le hs ht (fun a ha b hb => ?_) fun _ _ _ _ => rfl
  have hra := rank_genericArgument_lt hr hs ha
  have hrb := rank_genericArgument_lt hr ht hb
  have ha := (mem_genericArgumentsOf ha).1
  have hb := (mem_genericArgumentsOf hb).1
  simp only [same a ha b hb, agree a ha b hb (by omega)]

theorem listAcceptsExplicitly_congr (hu : u.Layered) (hr : u.IsRank rank) (le : u.Extends v)
    (hs : s ∈ u) (ht : t ∈ u) (same : ∀ a ∈ u, ∀ b ∈ u, implicit' a b = implicit a b)
    (agree : AgreeBelow u rank (rank s.token + rank t.token) explicit' explicit) :
    listAcceptsExplicitly v implicit' explicit' s t
      = listAcceptsExplicitly u implicit explicit s t := by
  rw [listAcceptsExplicitly, listAcceptsExplicitly, lineElement?_extends hu le hs]
  cases he : lineElement? u s with
  | none => rfl
  | some e =>
    have found := (lineElement?_eq_some.mp he).2
    have lower := rank_elementOf?_lt hr hs found
    have he := (elementOf?_eq_some.mp found).1
    refine listAccepts_congr hu hr le ht fun b hb hlt => ?_
    rw [same e he b hb, same b hb e he, agree e he b hb (by omega)]

theorem implements_extends (hu : u.Layered) (le : u.Extends v) (ht : t ∈ u) :
    v.implements t s = u.implements t s := by
  rw [implements, implements, Bool.eq_iff_iff, List.any_eq_true, List.any_eq_true]
  exact exists_congr fun i => and_congr_left fun _ => mem_interfacesOf_extends hu le ht

/-- **The explicit rule depends on the implicit conversions and on the explicit ones between smaller
types only**, and not on the types that are added to a universe. -/
theorem explicitRule_congr (hu : u.Layered) (hr : u.IsRank rank) (le : u.Extends v)
    (hs : s ∈ u) (ht : t ∈ u)
    (same : ∀ a ∈ u, ∀ b ∈ u, implicit' a b = implicit a b)
    (agree : AgreeBelow u rank (rank s.token + rank t.token) explicit' explicit) :
    explicitRule v implicit' explicit' s t = explicitRule u implicit explicit s t := by
  have swapped : AgreeBelow u rank (rank t.token + rank s.token) explicit' explicit :=
    agree.mono (by omega)
  rw [explicitRule, explicitRule, same s hs t ht,
    convertsExplicitlyByVariance_congr hu hr le hs ht same agree,
    listAcceptsExplicitly_congr hu hr le hs ht same agree,
    listAcceptsExplicitly_congr hu hr le ht hs same swapped, isSubclassOf_extends hu le ht,
    implements_extends hu le ht, parallelElements?_extends hu le hs ht]
  refine if_congr .rfl rfl (if_congr .rfl rfl ?_)
  cases s.isInterface <;> cases t.isInterface
  · refine if_congr .rfl rfl (if_congr .rfl ?_ rfl)
    cases he : parallelElements? u s t with
    | none => rfl
    | some e =>
      obtain ⟨-, ha, hb⟩ := parallelElements?_eq_some.mp he
      have lowerA := rank_elementOf?_lt hr hs ha
      have lowerB := rank_elementOf?_lt hr ht hb
      exact agree _ (elementOf?_eq_some.mp ha).1 _ (elementOf?_eq_some.mp hb).1 (by omega)
  all_goals rfl

end Rules

/-! ## Unfoldings -/

theorem implicitWithin_congr (hu : u.Layered) (hr : u.IsRank rank) (le : u.Extends v)
    {n m : Nat} (hs : s ∈ u) (ht : t ∈ u) (hn : rank s.token + rank t.token < n)
    (hm : rank s.token + rank t.token < m) : implicitWithin v n s t = implicitWithin u m s t := by
  induction n generalizing m s t with
  | zero => exact absurd hn (Nat.not_lt_zero _)
  | succ n ih =>
    obtain ⟨m, rfl⟩ := Nat.exists_eq_succ_of_ne_zero (Nat.ne_zero_of_lt hm)
    rw [implicitWithin, implicitWithin]
    exact implicitRule_congr hu hr le hs ht fun a ha b hb lt =>
      ih ha hb (by omega) (by omega)

theorem rank_add_lt_depthBound (hr : u.IsRank rank) (le : u.types.length ≤ v.types.length)
    (hs : s ∈ u) (ht : t ∈ u) : rank s.token + rank t.token < depthBound v := by
  have hs := hr.below s hs
  have ht := hr.below t ht
  have square := Nat.le_mul_self (v.types.length + 2)
  rw [depthBound]
  omega

/-- The implicit conversions between types of a universe stay the same as it grows. -/
theorem isImplicitReference_extends (hu : u.Layered) (le : u.Extends v) (hs : s ∈ u)
    (ht : t ∈ u) : isImplicitReference v s t = isImplicitReference u s t := by
  obtain ⟨rank, hr⟩ := hu.ranked
  exact implicitWithin_congr hu hr le hs ht (rank_add_lt_depthBound hr le.size hs ht)
    (rank_add_lt_depthBound hr (Nat.le_refl _) hs ht)

/-- **Implicit conversion is a fixed point of its rule.** -/
theorem isImplicitReference_eq (hu : u.Layered) (hs : s ∈ u) (ht : t ∈ u) :
    isImplicitReference u s t = implicitRule u (isImplicitReference u) s t := by
  obtain ⟨rank, hr⟩ := hu.ranked
  have enough : ∀ {a b}, a ∈ u → b ∈ u → rank a.token + rank b.token < depthBound u :=
    rank_add_lt_depthBound hr (Nat.le_refl _)
  calc isImplicitReference u s t = implicitWithin u (depthBound u + 1) s t :=
        implicitWithin_congr hu hr (.refl u) hs ht (enough hs ht)
          (Nat.lt_succ_of_lt (enough hs ht))
    _ = implicitRule u (isImplicitReference u) s t := rfl

theorem explicitWithin_congr (hu : u.Layered) (hr : u.IsRank rank) (le : u.Extends v)
    {n m : Nat} (hs : s ∈ u) (ht : t ∈ u) (hn : rank s.token + rank t.token < n)
    (hm : rank s.token + rank t.token < m) : explicitWithin v n s t = explicitWithin u m s t := by
  induction n generalizing m s t with
  | zero => exact absurd hn (Nat.not_lt_zero _)
  | succ n ih =>
    obtain ⟨m, rfl⟩ := Nat.exists_eq_succ_of_ne_zero (Nat.ne_zero_of_lt hm)
    rw [explicitWithin, explicitWithin]
    refine explicitRule_congr hu hr le hs ht ?_ fun a ha b hb lt =>
      ih ha hb (by omega) (by omega)
    exact fun a ha b hb => isImplicitReference_extends hu le ha hb

/-- The explicit conversions between types of a universe stay the same as it grows. -/
theorem isExplicitReference_extends (hu : u.Layered) (le : u.Extends v) (hs : s ∈ u)
    (ht : t ∈ u) : isExplicitReference v s t = isExplicitReference u s t := by
  obtain ⟨rank, hr⟩ := hu.ranked
  exact explicitWithin_congr hu hr le hs ht (rank_add_lt_depthBound hr le.size hs ht)
    (rank_add_lt_depthBound hr (Nat.le_refl _) hs ht)

/-- **Explicit conversion is a fixed point of its rule.** -/
theorem isExplicitReference_eq (hu : u.Layered) (hs : s ∈ u) (ht : t ∈ u) :
    isExplicitReference u s t
      = explicitRule u (isImplicitReference u) (isExplicitReference u) s t := by
  obtain ⟨rank, hr⟩ := hu.ranked
  have enough : ∀ {a b}, a ∈ u → b ∈ u → rank a.token + rank b.token < depthBound u :=
    rank_add_lt_depthBound hr (Nat.le_refl _)
  calc isExplicitReference u s t = explicitWithin u (depthBound u + 1) s t :=
        explicitWithin_congr hu hr (.refl u) hs ht (enough hs ht)
          (Nat.lt_succ_of_lt (enough hs ht))
    _ = explicitRule u (isImplicitReference u) (isExplicitReference u) s t := rfl

end TypeConversion.Reference
