import TypeConversion.Proofs.Universe.Bases
import Mathlib.Logic.Relation

/-!
# The interfaces of a type

The interfaces of a type are collected by a loop: it takes the pending interfaces one after another,
and what a new one lists becomes pending in turn.

* `Universe.Inherits u roots s`: `s` is one of the interfaces `roots`, or one of those lists it,
  directly or in turn.
* `InterfaceSearch` is a state of the loop and `Universe.Round` one round of it, without a bound on
  the rounds. Every round uses up a pending entry or a list that was not followed before
  (`Round.remaining_lt`), so that the rounds end at what is collected with enough steps
  (`rounds_collectInterfaces`).
* `Universe.Tracked` is the invariant of the loop, and `mem_interfacesOf_iff` what it comes to: the
  interfaces of a type are those inherited from what the type and its bases list.
* `interfacesOf_subset` and `interfacesOf_trans`: a type has the interfaces of its bases and of its
  interfaces.
* `mem_interfacesOf_extends`: the interfaces of a type stay the same as a universe grows.
-/

namespace TypeConversion

open Relation (ReflTransGen)

/-- A state of the loop: the interfaces that are pending, the next one first, and those found. -/
structure InterfaceSearch where
  pending : List Token
  found : List TypeDescriptor

namespace Universe

variable {u v : Universe} {r s t : TypeDescriptor} {roots others : List Token}

/-- The interfaces that are listed as roots or by an interface that is inherited from them. -/
inductive Inherits (u : Universe) : List Token → TypeDescriptor → Prop
  | listed {roots : List Token} {s : TypeDescriptor} (hs : s ∈ u) (h : s.token ∈ roots) :
      Inherits u roots s
  | through {roots : List Token} {r s : TypeDescriptor} (hr : r ∈ u) (h : r.token ∈ roots)
      (hi : Inherits u r.interfaces s) : Inherits u roots s

namespace Inherits

theorem mem (h : u.Inherits roots s) : s ∈ u := by
  induction h with
  | listed hs _ => exact hs
  | through _ _ _ ih => exact ih

theorem subset (h : u.Inherits roots s) (sub : roots ⊆ others) : u.Inherits others s := by
  cases h with
  | listed hs h => exact .listed hs (sub h)
  | through hr h hi => exact .through hr (sub h) hi

theorem append_iff :
    u.Inherits (roots ++ others) s ↔ u.Inherits roots s ∨ u.Inherits others s := by
  refine ⟨fun h => ?_, ?_⟩
  · cases h with
    | listed hs h => exact (List.mem_append.mp h).imp (.listed hs) (.listed hs)
    | through hr h hi =>
      exact (List.mem_append.mp h).imp (.through hr · hi) (.through hr · hi)
  · rintro (h | h)
    · exact h.subset (List.subset_append_left _ _)
    · exact h.subset (List.subset_append_right _ _)

theorem trans (h : u.Inherits roots r) (h' : u.Inherits r.interfaces s) : u.Inherits roots s := by
  induction h with
  | listed hr h => exact .through hr h h'
  | through hq h _ ih => exact .through hq h (ih h')

/-- What is inherited from types of a set lies in the set, if that has with each type those that it
lists. -/
theorem mem_of_closed {S : Set TypeDescriptor} (h : u.Inherits roots s)
    (closed : ∀ r ∈ S, ∀ s ∈ u, s.token ∈ r.interfaces → s ∈ S)
    (own : ∀ s ∈ u, s.token ∈ roots → s ∈ S) : s ∈ S := by
  induction h with
  | listed hs h => exact own _ hs h
  | through hr h _ ih => exact ih (closed _ (own _ hr h))

/-- What is inherited from interfaces is one. -/
theorem isInterface (hu : u.Layered) (h : u.Inherits roots s)
    (all : ∀ k ∈ roots, ∃ r ∈ u, r.token = k ∧ r.isInterface = true) : s.isInterface = true := by
  induction h with
  | listed hs h =>
    obtain ⟨r, hr, e, hi⟩ := all _ h
    rwa [eq_of_token_eq hs hr e.symm]
  | through hr _ _ ih => exact ih (hu.shaped _ hr).listed

theorem rank_lt {rank : Token → Nat} (hr : u.IsRank rank) {n : Nat} (h : u.Inherits roots s)
    (below : ∀ k ∈ roots, rank k < n) : rank s.token < n := by
  induction h with
  | listed _ h => exact below _ h
  | through hq h _ ih =>
    refine ih fun k hk => (hr.falls _ hq k ?_).trans (below _ h)
    exact TypeDescriptor.mem_mentions_interfaces hk

theorem mono (le : u.Extends v) (h : u.Inherits roots s) : v.Inherits roots s := by
  induction h with
  | listed hs h => exact .listed (le.mem _ hs) h
  | through hr h _ ih => exact .through (le.mem _ hr) h ih

end Inherits

/-! ## Collecting -/

/-- The number of entries in the lists that are still to be followed. -/
def unfollowed (u : Universe) (found : List TypeDescriptor) : Nat :=
  ((u.types.filter fun t => t.token ∉ found.map TypeDescriptor.token).flatMap
    TypeDescriptor.interfaces).length

/-- Before an interface is found, all lists are still to be followed. -/
theorem unfollowed_nil (u : Universe) :
    u.unfollowed [] = (u.types.flatMap TypeDescriptor.interfaces).length :=
  congrArg (fun l => (List.flatMap _ l).length) (List.filter_eq_self.mpr (by simp))

section Filter

variable {α β : Type} (list : α → List β) {p q : α → Bool}

theorem length_flatMap_filter_le (sub : ∀ y, q y = true → p y = true) (l : List α) :
    ((l.filter q).flatMap list).length ≤ ((l.filter p).flatMap list).length := by
  induction l with
  | nil => exact Nat.le_refl _
  | cons y l ih =>
    cases hq : q y with
    | true =>
      simp only [List.filter_cons, hq, sub y hq, if_true, List.flatMap_cons, List.length_append]
      omega
    | false =>
      cases hp : p y <;>
        simp only [List.filter_cons, hq, hp, Bool.false_eq_true, if_false, if_true,
          List.flatMap_cons, List.length_append] <;> omega

/-- Dropping an element from a filtered list takes away what it lists. -/
theorem length_flatMap_filter_add_le (sub : ∀ y, q y = true → p y = true) {x : α}
    (hp : p x = true) (hq : q x = false) {l : List α} (hx : x ∈ l) :
    ((l.filter q).flatMap list).length + (list x).length
      ≤ ((l.filter p).flatMap list).length := by
  obtain ⟨before, after, rfl⟩ := List.append_of_mem hx
  have hbefore := length_flatMap_filter_le list sub before
  have hafter := length_flatMap_filter_le list sub after
  simp only [List.filter_append, List.filter_cons, hp, hq, Bool.false_eq_true, if_false, if_true,
    List.flatMap_append, List.flatMap_cons, List.length_append]
  omega

end Filter

/-- A new interface pays for following its list. -/
theorem unfollowed_add_le (hs : s ∈ u) {found : List TypeDescriptor}
    (new : s.token ∉ found.map TypeDescriptor.token) :
    u.unfollowed (found ++ [s]) + s.interfaces.length ≤ u.unfollowed found := by
  have later : decide (s.token ∉ (found ++ [s]).map TypeDescriptor.token) = false := by simp
  refine length_flatMap_filter_add_le TypeDescriptor.interfaces
    (p := fun t => t.token ∉ found.map TypeDescriptor.token)
    (q := fun t => t.token ∉ (found ++ [s]).map TypeDescriptor.token)
    (fun y hy => ?_) (decide_eq_true new) later (List.mem_of_find?_eq_some hs)
  have hy := of_decide_eq_true hy
  rw [List.map_append, List.mem_append, not_or] at hy
  exact decide_eq_true hy.1

theorem any_token_iff {found : List TypeDescriptor} {k : Token} :
    (found.any fun t => t.token == k) = true ↔ k ∈ found.map TypeDescriptor.token := by
  simp

/-! ## Rounds -/

section Rounds

variable {c d : InterfaceSearch} {pending : List Token} {found : List TypeDescriptor}

/-- One round of the loop. A pending interface that was found before, or that is not known, is
dropped. A new one is found, and what it lists is pending before all else. -/
inductive Round (u : Universe) : InterfaceSearch → InterfaceSearch → Prop
  | drop {k : Token} {pending : List Token} {found : List TypeDescriptor}
      (h : k ∈ found.map TypeDescriptor.token ∨ u.find? k = none) :
      Round u ⟨k :: pending, found⟩ ⟨pending, found⟩
  | follow {k : Token} {s : TypeDescriptor} {pending : List Token} {found : List TypeDescriptor}
      (new : k ∉ found.map TypeDescriptor.token) (h : u.find? k = some s) :
      Round u ⟨k :: pending, found⟩ ⟨s.interfaces ++ pending, found ++ [s]⟩

/-- Rounds one after another. -/
abbrev Rounds (u : Universe) : InterfaceSearch → InterfaceSearch → Prop := ReflTransGen u.Round

/-- The entries that are pending, and those of the lists that are still to be followed. -/
def remaining (u : Universe) (c : InterfaceSearch) : Nat := c.pending.length + u.unfollowed c.found

theorem Round.remaining_lt (h : u.Round c d) : u.remaining d < u.remaining c := by
  cases h with
  | drop _ => simp [remaining]
  | @follow k s pending found new h =>
    obtain ⟨hs, rfl⟩ := mem_of_find?_eq_some h
    have paid := unfollowed_add_le hs new
    simp only [remaining, List.length_append, List.length_cons]
    omega

/-- **With enough steps, collecting goes on until the rounds end.** -/
theorem rounds_collectInterfaces {n : Nat} (enough : u.remaining ⟨pending, found⟩ ≤ n) :
    u.Rounds ⟨pending, found⟩ ⟨[], u.collectInterfaces n pending found⟩ := by
  induction n generalizing pending found with
  | zero =>
    have none : pending.length ≤ 0 := (Nat.le_add_right _ _).trans enough
    obtain rfl := List.length_eq_zero_iff.mp (Nat.le_zero.mp none)
    exact .refl
  | succ n ih =>
    cases pending with
    | nil => exact .refl
    | cons k pending =>
      -- whichever round comes next, one step less is enough after it
      have next {c : InterfaceSearch} (round : u.Round ⟨k :: pending, found⟩ c) :
          u.Rounds ⟨k :: pending, found⟩ ⟨[], u.collectInterfaces n c.pending c.found⟩ := by
        have less : u.remaining c < n + 1 := round.remaining_lt.trans_le enough
        exact .head round (ih (Nat.le_of_lt_succ less))
      rw [collectInterfaces]
      by_cases seen : k ∈ found.map TypeDescriptor.token
      · rw [if_pos (any_token_iff.mpr seen)]
        exact next (.drop (.inl seen))
      · rw [if_neg (mt any_token_iff.mp seen)]
        cases known : u.find? k with
        | none => exact next (.drop (.inr known))
        | some s => exact next (.follow seen known)

/-- The steps that are allowed for a type are enough. -/
theorem rounds_interfacesOf (u : Universe) (t : TypeDescriptor) :
    u.Rounds ⟨u.listedInterfaces t, []⟩ ⟨[], u.interfacesOf t⟩ := by
  refine rounds_collectInterfaces (Nat.le_of_eq ?_)
  rw [remaining, unfollowed_nil]

/-! ## The invariant of the loop -/

/-- The interfaces that the tokens stand for were found or are pending. -/
def Holds (u : Universe) (c : InterfaceSearch) (tokens : List Token) : Prop :=
  ∀ s ∈ u, s.token ∈ tokens → s ∈ c.found ∨ s.token ∈ c.pending

/-- What the loop that starts with `roots` knows in a state: it found and will find only what is
inherited from them, and it misses nothing that they or the interfaces found list. -/
structure Tracked (u : Universe) (roots : List Token) (c : InterfaceSearch) : Prop where
  found : ∀ s ∈ c.found, u.Inherits roots s
  pending : ∀ s, u.Inherits c.pending s → u.Inherits roots s
  roots : u.Holds c roots
  followed : ∀ r ∈ c.found, u.Holds c r.interfaces

theorem tracked_roots (u : Universe) (roots : List Token) : u.Tracked roots ⟨roots, []⟩ where
  found _ hs := absurd hs List.not_mem_nil
  pending _ h := h
  roots _ _ h := .inr h
  followed _ hr := absurd hr List.not_mem_nil

/-- A round lets go of no interface. -/
theorem Round.holds (h : u.Round c d) (known : ∀ r ∈ c.found, r ∈ u) {tokens : List Token}
    (held : u.Holds c tokens) : u.Holds d tokens := by
  intro s hs hk
  cases h with
  | drop h =>
    refine (held s hs hk).elim .inl fun first => ?_
    rcases List.mem_cons.mp first with rfl | later
    · rcases h with seen | unknown
      · obtain ⟨r, hr, e⟩ := List.mem_map.mp seen
        rw [← eq_of_token_eq (known r hr) hs e]
        exact .inl hr
      · simp [mem_iff.mp hs] at unknown
    · exact .inr later
  | follow _ h =>
    rcases held s hs hk with old | first
    · exact .inl (List.mem_append_left _ old)
    rcases List.mem_cons.mp first with rfl | later
    · obtain rfl := Option.some.inj ((mem_iff.mp hs).symm.trans h)
      exact .inl List.mem_concat_self
    · exact .inr (List.mem_append_right _ later)

/-- A round keeps the invariant. -/
theorem Round.tracked (h : u.Round c d) (tr : u.Tracked roots c) : u.Tracked roots d := by
  have held {tokens : List Token} : u.Holds c tokens → u.Holds d tokens :=
    h.holds fun r hr => (tr.found r hr).mem
  cases h with
  | drop _ =>
    exact ⟨tr.found, fun s h => tr.pending s (h.subset (List.subset_cons_self _ _)),
      held tr.roots, fun r hr => held (tr.followed r hr)⟩
  | @follow k new pending found _ h =>
    obtain ⟨known, rfl⟩ := mem_of_find?_eq_some h
    constructor
    case found =>
      intro s hs
      rcases List.mem_append.mp hs with old | last
      · exact tr.found s old
      · rw [List.mem_singleton.mp last]
        exact tr.pending new (.listed known List.mem_cons_self)
    case pending =>
      intro s hs
      rcases Inherits.append_iff.mp hs with below | later
      · exact tr.pending s (.through known List.mem_cons_self below)
      · exact tr.pending s (later.subset (List.subset_cons_self _ _))
    case roots => exact held tr.roots
    case followed =>
      intro r hr
      rcases List.mem_append.mp hr with old | last
      · exact held (tr.followed r old)
      · rw [List.mem_singleton.mp last]
        exact fun s _ hk => .inr (List.mem_append_left _ hk)

theorem Rounds.tracked (h : u.Rounds c d) (tr : u.Tracked roots c) : u.Tracked roots d := by
  induction h with
  | refl => exact tr
  | tail _ last ih => exact last.tracked ih

/-- Once nothing is pending, what was found is what is inherited. -/
theorem Tracked.mem_found_iff {found : List TypeDescriptor} (tr : u.Tracked roots ⟨[], found⟩) :
    s ∈ found ↔ u.Inherits roots s := by
  -- nothing is held back as pending any more
  have all {tokens : List Token} (held : u.Holds ⟨[], found⟩ tokens) :
      ∀ s ∈ u, s.token ∈ tokens → s ∈ found :=
    fun s hs hk => (held s hs hk).resolve_right List.not_mem_nil
  exact ⟨tr.found s, fun h =>
    h.mem_of_closed (S := {s | s ∈ found}) (fun r hr => all (tr.followed r hr)) (all tr.roots)⟩

end Rounds

/-! ## The interfaces of a type -/

/-- The interfaces that a type and its bases list. -/
theorem mem_listedInterfaces_iff (hu : u.Layered) (ht : t ∈ u) {k : Token} :
    k ∈ u.listedInterfaces t ↔ k ∈ t.interfaces ∨ ∃ b, u.Derives t b ∧ k ∈ b.interfaces := by
  simp only [listedInterfaces, List.mem_append, List.mem_flatMap, mem_ancestors_iff hu ht]
  exact or_comm

theorem exists_listedInterface (hu : u.Layered) (ht : t ∈ u) :
    ∀ k ∈ u.listedInterfaces t, ∃ s ∈ u, s.token = k ∧ s.isInterface = true := by
  intro k hk
  rcases (mem_listedInterfaces_iff hu ht).mp hk with hk | ⟨b, hb, hk⟩
  · exact (hu.shaped t ht).listed k hk
  · exact (hu.shaped b hb.mem).listed k hk

/-- **The collected interfaces of a type are those that it inherits.** -/
theorem mem_interfacesOf_iff : s ∈ u.interfacesOf t ↔ u.Inherits (u.listedInterfaces t) s :=
  ((u.rounds_interfacesOf t).tracked (u.tracked_roots _)).mem_found_iff

theorem mem_of_mem_interfacesOf (h : s ∈ u.interfacesOf t) : s ∈ u :=
  (mem_interfacesOf_iff.mp h).mem

theorem isInterface_of_mem_interfacesOf (hu : u.Layered) (ht : t ∈ u) (h : s ∈ u.interfacesOf t) :
    s.isInterface = true :=
  (mem_interfacesOf_iff.mp h).isInterface hu (exists_listedInterface hu ht)

theorem rank_lt_of_mem_interfacesOf {rank : Token → Nat} (hu : u.Layered) (hr : u.IsRank rank)
    (ht : t ∈ u) (h : s ∈ u.interfacesOf t) : rank s.token < rank t.token := by
  refine (mem_interfacesOf_iff.mp h).rank_lt hr fun k hk => ?_
  rcases (mem_listedInterfaces_iff hu ht).mp hk with hk | ⟨b, hb, hk⟩
  · exact hr.falls t ht k (TypeDescriptor.mem_mentions_interfaces hk)
  · exact (hr.falls b hb.mem k (TypeDescriptor.mem_mentions_interfaces hk)).trans
      (hb.rank_lt hr.fallsToBase ht)

/-- Only the base and the listed interfaces count for the interfaces of a type. -/
theorem interfacesOf_congr (base : s.base = t.base) (interfaces : s.interfaces = t.interfaces) :
    u.interfacesOf s = u.interfacesOf t := by
  simp only [interfacesOf, listedInterfaces, ancestors, base, interfaces]

/-- A type has the interfaces of its bases. -/
theorem interfacesOf_subset (hu : u.Layered) (ht : t ∈ u) (h : u.Derives t s)
    (hr : r ∈ u.interfacesOf s) : r ∈ u.interfacesOf t := by
  rw [mem_interfacesOf_iff]
  refine (mem_interfacesOf_iff.mp hr).subset fun k hk => ?_
  rw [mem_listedInterfaces_iff hu ht]
  rcases (mem_listedInterfaces_iff hu h.mem).mp hk with hk | ⟨b, hb, hk⟩
  · exact .inr ⟨s, h, hk⟩
  · exact .inr ⟨b, h.trans hb, hk⟩

/-- A type has the interfaces of its interfaces. -/
theorem interfacesOf_trans (hu : u.Layered) (ht : t ∈ u) (hs : s ∈ u.interfacesOf t)
    (hr : r ∈ u.interfacesOf s) : r ∈ u.interfacesOf t := by
  have hsu := mem_of_mem_interfacesOf hs
  have noBase := (hu.shaped s hsu).interface_base (isInterface_of_mem_interfacesOf hu ht hs)
  rw [mem_interfacesOf_iff] at hs ⊢
  refine hs.trans ((mem_interfacesOf_iff.mp hr).subset fun k hk => ?_)
  rcases (mem_listedInterfaces_iff hu hsu).mp hk with hk | ⟨b, hb, -⟩
  · exact hk
  · exact absurd noBase hb.base_ne_none

/-! ## Growth -/

theorem inherits_extends (hu : u.Layered) (le : u.Extends v)
    (known : ∀ k ∈ roots, ∃ s ∈ u, s.token = k) : v.Inherits roots s ↔ u.Inherits roots s := by
  refine ⟨fun h => ?_, .mono le⟩
  have old : ∀ {roots : List Token}, (∀ k ∈ roots, ∃ s ∈ u, s.token = k) →
      ∀ {s}, s ∈ v → s.token ∈ roots → s ∈ u := by
    intro roots known s hs h
    obtain ⟨r, hr, e⟩ := known _ h
    rwa [← eq_of_token_eq (le.mem r hr) hs e]
  induction h with
  | listed hs h => exact .listed (old known hs h) h
  | through hr h _ ih =>
    have hr := old known hr h
    refine .through hr h (ih fun k hk => ?_)
    exact (hu.shaped _ hr).mentioned k (TypeDescriptor.mem_mentions_interfaces hk)

/-- The interfaces of a type stay the same as the universe grows. -/
theorem mem_interfacesOf_extends (hu : u.Layered) (le : u.Extends v) (ht : t ∈ u) :
    s ∈ v.interfacesOf t ↔ s ∈ u.interfacesOf t := by
  have same : v.listedInterfaces t = u.listedInterfaces t := by
    rw [listedInterfaces, listedInterfaces, ancestors_extends hu le ht]
  rw [mem_interfacesOf_iff, mem_interfacesOf_iff, same]
  refine inherits_extends hu le fun k hk => ?_
  exact (exists_listedInterface hu ht k hk).imp fun s hs => ⟨hs.1, hs.2.1⟩

end Universe

end TypeConversion
