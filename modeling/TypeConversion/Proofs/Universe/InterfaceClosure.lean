import TypeConversion.Proofs.Universe.Interfaces
import Mathlib.Data.List.Nodup
import Mathlib.Order.Bounds.Basic

/-!
# The interfaces of a type as a closure

The loop that collects the interfaces of a type ends in one state only, and its result is stated
without the loop.

* `wellFounded_round`: no chain of rounds is infinite, in any universe.
* `rounds_iff_of_nil`: the only state without pending interfaces that the rounds lead to is the one
  that has found the interfaces of the type.
* `Universe.ClosedOver u t S`: the set `S` has the interfaces that `t` and its bases list, and with
  each type those that it lists.
* `interfacesOf_isLeast`: the interfaces of a type are the least such set.
-/

namespace TypeConversion

open Relation (ReflTransGen)

namespace Universe

variable {u : Universe} {t : TypeDescriptor} {c d : InterfaceSearch} {found : List TypeDescriptor}

/-! ## The end of the loop -/

/-- No chain of rounds is infinite. -/
theorem wellFounded_round (u : Universe) : WellFounded fun d c => u.Round c d :=
  Subrelation.wf Round.remaining_lt (InvImage.wf u.remaining Nat.lt_wfRel.wf)

/-- A state determines the next one. -/
theorem rightUnique_round (u : Universe) : Relator.RightUnique u.Round := by
  intro c d e h h'
  cases h with
  | drop h =>
    cases h' with
    | drop _ => rfl
    | follow new h' => simp [new, h'] at h
  | follow new h =>
    cases h' with
    | drop h' => simp [new, h] at h'
    | follow _ h' => rw [Option.some.inj (h.symm.trans h')]

/-- No round follows once nothing is pending. -/
theorem Rounds.eq_of_nil (h : u.Rounds ⟨[], found⟩ c) : c = ⟨[], found⟩ := by
  rcases h.cases_head with same | ⟨d, first, -⟩
  · exact same.symm
  · cases first

/-- A new interface is not among those found before. -/
theorem Rounds.nodup (h : u.Rounds c d) (distinct : (c.found.map TypeDescriptor.token).Nodup) :
    (d.found.map TypeDescriptor.token).Nodup := by
  induction h with
  | refl => exact distinct
  | tail _ last ih =>
    cases last with
    | drop _ => exact ih
    | follow new h =>
      obtain ⟨-, rfl⟩ := mem_of_find?_eq_some h
      rw [List.map_append, List.map_singleton]
      exact List.Nodup.append ih (List.nodup_singleton _) (List.disjoint_singleton.mpr new)

/-- The loop ends with the interfaces of the type, and nowhere else. -/
theorem rounds_iff_of_nil (none : c.pending = []) :
    u.Rounds ⟨u.listedInterfaces t, []⟩ c ↔ c = ⟨[], u.interfacesOf t⟩ := by
  obtain ⟨pending, found⟩ := c
  obtain rfl : pending = [] := none
  constructor
  · intro h
    rcases ReflTransGen.total_of_right_unique u.rightUnique_round h (u.rounds_interfacesOf t)
      with later | later
    · exact (Rounds.eq_of_nil later).symm
    · exact Rounds.eq_of_nil later
  · rintro ⟨⟩
    exact u.rounds_interfacesOf t

/-! ## Closed sets -/

/-- The tokens stand for types of the set. -/
def Has (u : Universe) (S : Set TypeDescriptor) (tokens : List Token) : Prop :=
  ∀ k ∈ tokens, ∃ s ∈ S, u.find? k = some s

theorem Has.mem {S : Set TypeDescriptor} {tokens : List Token} (has : u.Has S tokens)
    {s : TypeDescriptor} (hs : s ∈ u) (h : s.token ∈ tokens) : s ∈ S := by
  obtain ⟨r, hr, found⟩ := has _ h
  rwa [← Option.some.inj (found.symm.trans (mem_iff.mp hs))]

/-- The set has the interfaces that a type and its bases list, and with each type those that it
lists. -/
structure ClosedOver (u : Universe) (t : TypeDescriptor) (S : Set TypeDescriptor) : Prop where
  own : u.Has S t.interfaces
  inherited : ∀ b, u.Derives t b → u.Has S b.interfaces
  listed : ∀ s ∈ S, u.Has S s.interfaces

/-- The interfaces of a type are a closed set. -/
theorem closedOver_interfacesOf (hu : u.Layered) (ht : t ∈ u) :
    u.ClosedOver t {s | s ∈ u.interfacesOf t} := by
  have roots {k : Token} (hk : k ∈ u.listedInterfaces t) :
      ∃ s ∈ u.interfacesOf t, u.find? k = some s := by
    obtain ⟨s, hs, rfl, -⟩ := exists_listedInterface hu ht k hk
    exact ⟨s, mem_interfacesOf_iff.mpr (.listed hs hk), hs⟩
  constructor
  case own => exact fun k hk => roots ((mem_listedInterfaces_iff hu ht).mpr (.inl hk))
  case inherited =>
    intro b hb k hk
    exact roots ((mem_listedInterfaces_iff hu ht).mpr (.inr ⟨b, hb, hk⟩))
  case listed =>
    intro r hr k hk
    have inherited := mem_interfacesOf_iff.mp hr
    obtain ⟨s, hs, rfl, -⟩ := (hu.shaped r inherited.mem).listed k hk
    exact ⟨s, mem_interfacesOf_iff.mpr (inherited.trans (.listed hs hk)), hs⟩

/-- Every closed set has the interfaces of the type. -/
theorem ClosedOver.mem (hu : u.Layered) (ht : t ∈ u) {S : Set TypeDescriptor}
    (h : u.ClosedOver t S) {s : TypeDescriptor} (hs : s ∈ u.interfacesOf t) : s ∈ S := by
  refine (mem_interfacesOf_iff.mp hs).mem_of_closed
    (fun r hr s hs hk => (h.listed r hr).mem hs hk) fun s hs hk => ?_
  rcases (mem_listedInterfaces_iff hu ht).mp hk with hk | ⟨b, hb, hk⟩
  · exact h.own.mem hs hk
  · exact (h.inherited b hb).mem hs hk

/-- **The interfaces of a type are the closure of what it and its bases list.** No chain of rounds
of the loop is infinite, and nothing is pending exactly at the end, where the interfaces of the type
have been found. None of them is found twice, each is a known interface, and together they are the
least set that has the interfaces listed by the type, by its bases and by the members of the set. -/
theorem interfacesOf_isLeast (hu : u.Built) (ht : t ∈ u) :
    (WellFounded fun d c => u.Round c d) ∧
    (∀ c : InterfaceSearch, c.pending = [] →
      (u.Rounds ⟨u.listedInterfaces t, []⟩ c ↔ c = ⟨[], u.interfacesOf t⟩)) ∧
    ((u.interfacesOf t).map TypeDescriptor.token).Nodup ∧
    IsLeast {S : Set TypeDescriptor | u.ClosedOver t S} {s | s ∈ u.interfacesOf t} ∧
    ∀ s ∈ u.interfacesOf t, u.find? s.token = some s ∧ s.isInterface = true := by
  have layered := hu.wellFormed.toLayered
  refine ⟨u.wellFounded_round, fun c none => rounds_iff_of_nil none, ?_,
    ⟨closedOver_interfacesOf layered ht, fun S closed s hs => closed.mem layered ht hs⟩,
    fun s hs => ⟨mem_of_mem_interfacesOf hs, isInterface_of_mem_interfacesOf layered ht hs⟩⟩
  exact (u.rounds_interfacesOf t).nodup List.nodup_nil

/-- An array lists the interfaces that its base lists too, and one of these lists two of the others.
Of eight pending entries, and more to come, four interfaces are found. -/
theorem interfacesOf_isLeast_array : ∃ (u : Universe) (t : TypeDescriptor), t.kind = .array 1 ∧
    (u.listedInterfaces t).length = 8 ∧
    (∀ c : InterfaceSearch, c.pending = [] →
      (u.Rounds ⟨u.listedInterfaces t, []⟩ c ↔ c = ⟨[], u.interfacesOf t⟩)) ∧
    (u.interfacesOf t).map TypeDescriptor.token
      = [.cloneable, .list, .collection, .enumerable].map FrameworkType.token ∧
    ((u.interfacesOf t).map TypeDescriptor.token).Nodup ∧
    IsLeast {S : Set TypeDescriptor | u.ClosedOver t S} {s | s ∈ u.interfacesOf t} := by
  obtain ⟨t, v, made⟩ : ∃ t v,
    initial.arrayOf FrameworkType.string.descriptor 1 = .ok (t, v) := ⟨_, _, rfl⟩
  have rows : v.WithinRows := by
    cases made
    constructor <;> decide
  have ht : t ∈ v := by
    cases made
    decide
  have built : v.Built := .step .initial (.arrayOf (by decide) made) rows
  obtain ⟨-, stops, distinct, least, -⟩ := interfacesOf_isLeast built ht
  refine ⟨v, t, ?_, ?_, stops, ?_, distinct, least⟩
  all_goals
    cases made
    decide

end Universe

end TypeConversion
